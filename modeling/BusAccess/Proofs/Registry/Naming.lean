import BusAccess.Proofs.Registry.Dispatch
import Mathlib.Data.List.Nodup

/-!
# Registries of backends whose names do not change

A backend is registered if it has a name and no other backend has the same.  So as long as names
stay what they are, the names of a registry tell its backends apart (`WellNamed`), whatever was
registered in whatever order (`wellNamed_registering`).

Registration compares names as a whole, and a request means a name also if it goes on behind it
with a colon.  The two fit together for names without colons.  Among these a request decides on one,
which is what stands in front of its first colon, and the order of the registry plays no part
(`find?_eq_some_iff_scheme`).

They do not fit together for names with colons: `usb` and `usb:1` are different, and a request for
the second means the first as well.  Then the one that is registered later is asked.  So a backend
can be reached by its own name unless a name that ends at a colon in it is registered after it
(`own_name_asks`).
-/

set_option autoImplicit false

namespace BusAccess

open Program (requests)

namespace Registry

variable {ι β : Type} {name : ι → String} {r : Registry ι} {i j : ι}

/-! ## Names that tell backends apart -/

/-- Whether all backends of a registry have names, and no two have the same. -/
structure WellNamed (name : ι → String) (r : Registry ι) : Prop where
  /-- No name is empty. -/
  named : "" ∉ r.names name
  /-- No two are the same. -/
  distinct : (r.names name).Nodup

namespace WellNamed

theorem of_empty (preferred : Option String) :
    ({ preferred } : Registry ι).WellNamed name := ⟨List.not_mem_nil, List.nodup_nil⟩

theorem name_ne_empty (h : r.WellNamed name) (hi : i ∈ r.entries) : name i ≠ "" := by
  intro he
  exact h.named (he ▸ List.mem_map_of_mem hi)

theorem eq_of_name_eq (h : r.WellNamed name) (hi : i ∈ r.entries) (hj : j ∈ r.entries)
    (hn : name i = name j) : i = j :=
  List.inj_on_of_nodup_map h.distinct hi hj hn

/-- Only the names of what is registered matter. -/
theorem congr {name' : ι → String} {r' : Registry ι} (h : r.WellNamed name)
    (he : r'.entries = r.entries) (hn : ∀ i ∈ r.entries, name' i = name i) :
    r'.WellNamed name' := by
  have hnames : r'.names name' = r.names name := by
    rw [names, names, he]
    exact List.map_congr_left hn
  exact ⟨hnames ▸ h.named, hnames ▸ h.distinct⟩

/-- A backend that can be registered has a name of its own. -/
theorem cons (h : r.WellNamed name) (ha : r.Admits name i) :
    ({ r with entries := i :: r.entries } : Registry ι).WellNamed name where
  named := by
    rw [names, List.map_cons, List.mem_cons, not_or]
    exact ⟨ha.1.symm, h.named⟩
  distinct := by
    rw [names, List.map_cons, List.nodup_cons]
    refine ⟨fun hm ↦ ?_, h.distinct⟩
    obtain ⟨j, hj, hn⟩ := List.mem_map.1 hm
    exact (ha.2 j hj).2 hn

end WellNamed

/-! ## Registrations -/

section Registering

variable [DecidableEq ι]

/-- What comes of a registration, and the registry after it. -/
def attempt (name : ι → String) (i : ι) (r : Registry ι) : Except Error Unit × Registry ι :=
  ((register name i : Action Program.silence (Registry ι) Unit) r).outcome.1

/-- The registry after a number of registrations, whatever comes of each. -/
def registering (name : ι → String) : List ι → Registry ι → Registry ι
  | [], r => r
  | i :: is, r => registering name is (attempt name i r).2

/-- The backends whose registrations are accepted, the first one first. -/
def admitted (name : ι → String) : List ι → Registry ι → List ι
  | [], _ => []
  | i :: is, r =>
    match (attempt name i r).1 with
    | .ok _ => i :: admitted name is (attempt name i r).2
    | .error _ => admitted name is (attempt name i r).2

theorem attempt_eq (name : ι → String) (i : ι) (r : Registry ι) :
    attempt name i r =
      if r.Admits name i then (.ok (), { r with entries := i :: r.entries })
      else (.error .invalidName, r) := by
  rw [attempt, register_run]
  split <;> rfl

/-- What is registered is what was accepted, the last one first. -/
theorem entries_registering (name : ι → String) (l : List ι) (r : Registry ι) :
    (registering name l r).entries = (admitted name l r).reverse ++ r.entries := by
  induction l generalizing r with
  | nil => rfl
  | cons i l ih =>
    rw [registering, admitted, ih, attempt_eq]
    by_cases ha : r.Admits name i
    · simp only [if_pos ha, List.reverse_cons, List.append_assoc, List.singleton_append]
    · simp only [if_neg ha]

/-- **Registrations keep names apart.** -/
theorem wellNamed_registering (l : List ι) (h : r.WellNamed name) :
    (registering name l r).WellNamed name := by
  induction l generalizing r with
  | nil => exact h
  | cons i l ih =>
    rw [registering, attempt_eq]
    by_cases ha : r.Admits name i
    · rw [if_pos ha]
      exact ih (h.cons ha)
    · rw [if_neg ha]
      exact ih h

end Registering

/-! ## Requests for a name -/

/-- Whether one name is all of another up to a colon in it. -/
def Shadows (shorter longer : String) : Prop := ∃ tail, longer = shorter ++ ":" ++ tail

theorem Shadows.colon_mem {shorter longer : String} (h : Shadows shorter longer) :
    ':' ∈ longer.toList := by
  obtain ⟨tail, rfl⟩ := h
  simp [String.toList_append]

/-- A request for the name of a backend means this backend, and those that shadow it. -/
theorem WellNamed.meant_name_iff (h : r.WellNamed name) (hi : i ∈ r.entries)
    (hj : j ∈ r.entries) : Meant (name j) (name i) ↔ j = i ∨ Shadows (name j) (name i) := by
  constructor
  · rintro ⟨_, hn | hs⟩
    · exact .inl (h.eq_of_name_eq hj hi hn.symm)
    · exact .inr hs
  · rintro (rfl | hs)
    · exact ⟨h.name_ne_empty hj, .inl rfl⟩
    · exact ⟨h.name_ne_empty hj, .inr hs⟩

/-- **The backend that is asked by its name** is the last one of those that shadow it and were
registered after it, and if there are none, it is the backend itself. -/
theorem WellNamed.isFirst_meant_name (h : r.WellNamed name) {newer older : List ι}
    (he : r.entries = newer ++ i :: older) :
    ∃ k, IsFirst (fun j ↦ Meant (name j) (name i)) r.entries k ∧
      (k = i ∧ (∀ j ∈ newer, ¬ Shadows (name j) (name i)) ∨
        IsFirst (fun j ↦ Shadows (name j) (name i)) newer k) := by
  have hi : i ∈ r.entries := he ▸ List.mem_append_right _ (List.mem_cons_self ..)
  have hsub : ∀ j ∈ newer, j ∈ r.entries := fun j hj ↦ he ▸ List.mem_append_left _ hj
  have hne : ∀ j ∈ newer, j ≠ i := by
    have hd : (newer ++ i :: older).Nodup := he ▸ h.distinct.of_map
    intro j hj hji
    exact (List.nodup_append.1 hd).2.2 j hj i (List.mem_cons_self ..) hji
  have hnot : ∀ j ∈ newer, ¬ Shadows (name j) (name i) → ¬ Meant (name j) (name i) := by
    intro j hj hs hm
    rcases (h.meant_name_iff hi (hsub j hj)).1 hm with hji | hs'
    · exact hne j hj hji
    · exact hs hs'
  rcases forall_not_or_isFirst (fun j ↦ Shadows (name j) (name i)) newer with
    hs | ⟨k, front, back, hn, hk, hs⟩
  · refine ⟨i, ⟨newer, older, he, (h.meant_name_iff hi hi).2 (.inl rfl), ?_⟩, .inl ⟨rfl, hs⟩⟩
    intro j hj
    exact hnot j hj (hs j hj)
  · have hkn : k ∈ newer := hn ▸ List.mem_append_right _ (List.mem_cons_self ..)
    refine ⟨k, ⟨front, back ++ i :: older, ?_, ?_, ?_⟩, .inr ⟨front, back, hn, hk, hs⟩⟩
    · rw [he, hn, List.append_assoc, List.cons_append]
    · exact (h.meant_name_iff hi (hsub k hkn)).2 (.inr hk)
    · intro j hj
      exact hnot j (hn ▸ List.mem_append_left _ hj) (hs j hj)

/-- **Who is asked by the name of a backend.**  Let a backend be accepted among any registrations,
and be asked for by its name.  Then one backend is asked, and its answer is the result.  It is the
one asked for unless a backend was registered after it whose name ends at a colon in the name; then
it is the last one of these.  So a backend whose name has no colon in it can always be reached by
its name. -/
theorem own_name_asks [DecidableEq ι] {registrations earlier later : List ι}
    {preferred : Option String}
    (hi : admitted name registrations { preferred } = earlier ++ i :: later)
    (outcome : ι → Except Error β) {c : Connect} (hc : c.backend = some (name i)) :
    let r := registering name registrations { preferred }
    let run := (r.createBus name c).under outcome
    ∃ k, requests run.1 = [k] ∧ run.2 = outcome k ∧
      (k = i ∧ (∀ j ∈ later, ¬ Shadows (name j) (name i)) ∨
        ∃ between latest, later = between ++ k :: latest ∧ Shadows (name k) (name i) ∧
          ∀ j ∈ latest, ¬ Shadows (name j) (name i)) ∧
      (':' ∉ (name i).toList → k = i) := by
  intro r run
  have h : r.WellNamed name := wellNamed_registering registrations (.of_empty preferred)
  have he : r.entries = later.reverse ++ i :: earlier.reverse := by
    have hr := entries_registering name registrations { preferred }
    rw [hi, List.append_nil, List.reverse_append, List.reverse_cons, List.append_assoc] at hr
    exact hr
  obtain ⟨k, hk, hshadow⟩ := h.isFirst_meant_name he
  have hrun : Dispatch name outcome r.entries (r.requested c) [k] (outcome k) := by
    have hq : r.requested c = some (name i) := by rw [requested, hc]; rfl
    rw [hq]
    exact .named hk
  obtain ⟨hq, hr⟩ := hrun.run_eq
  refine ⟨k, hq.symm, hr.symm, ?_, fun hcolon ↦ ?_⟩
  · rcases hshadow with ⟨rfl, hs⟩ | ⟨front, back, hl, hk, hs⟩
    · exact .inl ⟨rfl, fun j hj ↦ hs j (List.mem_reverse.2 hj)⟩
    · refine .inr ⟨back.reverse, front.reverse, ?_, hk, fun j hj ↦ hs j (List.mem_reverse.1 hj)⟩
      rw [← List.reverse_reverse later, hl, List.reverse_append, List.reverse_cons,
        List.append_assoc, List.singleton_append]
  · rcases hshadow with ⟨rfl, _⟩ | hfirst
    · rfl
    · exact absurd hfirst.holds.colon_mem hcolon

/-- Of the backends that are registered after `usb:1:a`, two have names that end at a colon in it,
and the last of these is asked. -/
theorem own_name_asks_latest :
    let registrations := ["usb:1:a", "usb", "usb:1", "usb:1", "usb:10"]
    let r := registering id registrations {}
    admitted id registrations {} = ["usb:1:a", "usb", "usb:1", "usb:10"] ∧
      requests ((r.createBus id { backend := some "usb:1:a" }).under
        fun i ↦ (.ok i : Except Error String)).1 = ["usb:1"] := by
  intro registrations r
  have hi : admitted id registrations {} = [] ++ "usb:1:a" :: ["usb", "usb:1", "usb:10"] := by
    decide
  obtain ⟨k, hk, _, hcases, _⟩ :=
    own_name_asks hi (fun i ↦ (.ok i : Except Error String)) (c := { backend := some "usb:1:a" }) rfl
  have shadows : Shadows "usb:1" "usb:1:a" := ⟨"a", by decide⟩
  have shadows_not : ¬ Shadows "usb:10" "usb:1:a" := fun hs ↦
    absurd ((selects_iff "usb:10" "usb:1:a").2 ⟨by decide, .inr hs⟩) (by decide)
  refine ⟨hi, hk.trans ?_⟩
  rcases hcases with ⟨_, hs⟩ | ⟨between, latest, hl, hs, hlatest⟩
  · exact absurd shadows (hs "usb:1" (by decide))
  · -- The place of `k` among the three is found from behind.
    match between, hl with
    | [], hl =>
      obtain ⟨-, rfl⟩ := List.cons.inj hl
      exact absurd shadows (hlatest "usb:1" (by decide))
    | [_], hl =>
      obtain rfl : "usb:1" = k := (List.cons.inj (List.cons.inj hl).2).1
      rfl
    | [_, _], hl =>
      obtain rfl : "usb:10" = k := (List.cons.inj (List.cons.inj (List.cons.inj hl).2).2).1
      exact absurd hs shadows_not
    | _ :: _ :: _ :: _, hl => simp at hl

/-- A backend is accepted, and asking for it by its name asks another one. -/
theorem own_name_shadowed :
    let r := registering id ["usb:1", "usb"] {}
    admitted id ["usb:1", "usb"] {} = ["usb:1", "usb"] ∧
      (r.createBus id { backend := some "usb:1" }).under (fun i ↦ (.ok i : Except Error String)) =
        ([.reported (.debug "explicit selection"), .asked "usb" (.ok "usb")], .ok "usb") := by
  exact ⟨by decide, by rfl⟩

/-! ## The order of registrations -/

/-- A request goes to the backend by the name in front of its first colon, if names have none. -/
theorem WellNamed.find?_eq_some_iff_scheme (h : r.WellNamed name)
    (hc : ∀ j ∈ r.entries, ':' ∉ (name j).toList) {wanted : String} :
    r.find? name wanted = some i ↔ i ∈ r.entries ∧ name i = scheme wanted := by
  constructor
  · intro hf
    have hi := (r.find?_eq_some_iff name).1 hf
    exact ⟨hi.mem, ((meant_iff_scheme (hc i hi.mem) wanted).1 hi.holds).2⟩
  · rintro ⟨hi, hn⟩
    have meant : Meant (name i) wanted :=
      (meant_iff_scheme (hc i hi) wanted).2 ⟨h.name_ne_empty hi, hn⟩
    cases hf : r.find? name wanted with
    | none => exact absurd meant ((r.find?_eq_none_iff name).1 hf i hi)
    | some k =>
      have hk := (r.find?_eq_some_iff name).1 hf
      have hkn := ((meant_iff_scheme (hc k hk.mem) wanted).1 hk.holds).2
      rw [h.eq_of_name_eq hk.mem hi (hkn.trans hn.symm)]

/-- A request that names something is a matter of which backend it finds. -/
theorem createBus_of_requested {wanted : String} {c : Connect} (hc : r.requested c = some wanted) :
    (r.createBus name c : Program (creation ι β) _) = r.createNamed name wanted := by
  rw [createBus, hc]

theorem requests_createNamed (wanted : String) (outcome : ι → Except Error β) :
    requests ((r.createNamed name wanted).under outcome).1 = (r.find? name wanted).toList := by
  cases hf : r.find? name wanted with
  | none =>
    simp only [createNamed, hf]
    rfl
  | some i =>
    simp only [createNamed, hf, Program.under]
    cases outcome i <;> rfl

/-- **The order of registrations does not matter to requests.**  Let two registries have come about
by any registrations, and let them hold the same backends, by names without colons.  Then a request
that names something finds the same backend in both, or none in both: the one by the name in front
of its first colon.  So making a bus comes to the same for both, and asks this backend and nobody
else. -/
theorem request_ignores_order [DecidableEq ι] {registrations registrations' : List ι}
    {preferred preferred' : Option String}
    (same : ∀ i, i ∈ (registering name registrations { preferred }).entries ↔
      i ∈ (registering name registrations' { preferred := preferred' }).entries)
    (hc : ∀ i ∈ (registering name registrations { preferred }).entries, ':' ∉ (name i).toList)
    (wanted : String) :
    let r := registering name registrations { preferred }
    let r' := registering name registrations' { preferred := preferred' }
    r.find? name wanted = r'.find? name wanted ∧
      (∀ i, r.find? name wanted = some i ↔ i ∈ r.entries ∧ name i = scheme wanted) ∧
      ∀ c c', r.requested c = some wanted → r'.requested c' = some wanted →
        (r.createBus name c : Program (creation ι β) _) = r'.createBus name c' ∧
          ∀ outcome : ι → Except Error β,
            requests ((r.createBus name c).under outcome).1 = (r.find? name wanted).toList := by
  intro r r'
  have h : r.WellNamed name := wellNamed_registering registrations (.of_empty preferred)
  have h' : r'.WellNamed name := wellNamed_registering registrations' (.of_empty preferred')
  have hc' : ∀ i ∈ r'.entries, ':' ∉ (name i).toList := fun i hi ↦ hc i ((same i).2 hi)
  have hfind : r.find? name wanted = r'.find? name wanted := by
    refine Option.ext fun i ↦ ?_
    rw [h.find?_eq_some_iff_scheme hc, h'.find?_eq_some_iff_scheme hc', same i]
  refine ⟨hfind, fun i ↦ h.find?_eq_some_iff_scheme hc, fun c c' hr hr' ↦ ⟨?_, fun outcome ↦ ?_⟩⟩
  · rw [createBus_of_requested hr, createBus_of_requested hr', createNamed, createNamed, hfind]
  · rw [createBus_of_requested hr]
    exact requests_createNamed wanted outcome

/-- Three backends in two orders; the string is for the one that is neither first nor last. -/
theorem request_ignores_order_of_three :
    let r := registering id ["linuxdev", "mpsse", "pigpiod"] {}
    let r' := registering id ["mpsse", "pigpiod", "mpsse", "", "linuxdev"] {}
    (∀ i, i ∈ r.entries ↔ i ∈ r'.entries) ∧ (∀ i ∈ r.entries, ':' ∉ (id i).toList) ∧
      r.find? id "mpsse://0403:6014/" = some "mpsse" ∧
      r'.find? id "mpsse://0403:6014/" = some "mpsse" := by
  intro r r'
  have he : r.entries = ["pigpiod", "mpsse", "linuxdev"] := by decide
  have he' : r'.entries = ["linuxdev", "pigpiod", "mpsse"] := by decide
  have same : ∀ i, i ∈ r.entries ↔ i ∈ r'.entries := by
    intro i
    rw [he, he']
    simp only [List.mem_cons, List.not_mem_nil, or_false]
    tauto
  have hc : ∀ i ∈ r.entries, ':' ∉ (id i).toList := by
    rw [he]
    decide
  obtain ⟨hfind, hiff, _⟩ := request_ignores_order (β := Unit) same hc "mpsse://0403:6014/"
  have hm : r.find? id "mpsse://0403:6014/" = some "mpsse" :=
    (hiff "mpsse").2 ⟨by rw [he]; decide, by decide⟩
  exact ⟨same, hc, hm, hfind ▸ hm⟩

end Registry

end BusAccess
