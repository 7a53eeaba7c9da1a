import BusAccess.Proofs.Registry.Naming

/-!
# What a registry lets in

A roster is called in two ways: something about it is changed, or a bus is to be made with it.
`Roster.serve` takes such calls one after the other and keeps what came of each, and making a bus is
up to backends that do and answer what they like.  Making a bus leaves the roster as it is, so what
is on it is a matter of the changes alone (`runs_serve`).

The rule for registrations is short: a backend is let in unless it has no name, is there already, or
has the name of one that is (`Change.result_of_offer`).  Names are compared as they are at the time.
So a backend can come to a name that is in use by being renamed, and the rule does not keep names
apart for good.  It does if nobody's name changes (`wellNamed_after`).
-/

set_option autoImplicit false

namespace BusAccess

open Program (Trace)

namespace Roster

variable {M β : Type} {S : Interface} {r r' : Roster M} {f : Factory M} {i : Nat} {n : String}

/-! ## The names on a roster -/

/-- Whether what is registered is on the roster. -/
def Enrolled (r : Roster M) : Prop := ∀ i ∈ r.registry.entries, i < r.factories.length

/-- Who has a name is on the roster. -/
theorem lt_of_name_ne_empty (h : r.name i ≠ "") : i < r.factories.length := by
  by_contra hi
  refine h ?_
  rw [name, List.getElem?_eq_none (Nat.not_lt.1 hi)]
  rfl

/-- A new backend does not change the names of the others. -/
theorem name_enroll_of_lt (h : i < r.factories.length) : (r.enroll f).name i = r.name i := by
  simp only [name, enroll, List.getElem?_append_left h]

theorem name_enroll_length (f : Factory M) : (r.enroll f).name r.factories.length = f.name := by
  simp only [name, enroll, List.getElem?_concat_length, Option.elim]

/-! ## The rule for registrations -/

namespace Change

variable {c : Change M}

/-- The backend that a change is to register, and the name that it has. -/
def offer (r : Roster M) : Change M → Option (Nat × String)
  | register f => some (r.factories.length, f.name)
  | registerAt i => some (i, r.name i)
  | _ => none

/-- The roster with the backend on it that a change is to register. -/
def prepared (r : Roster M) : Change M → Roster M
  | register f => r.enroll f
  | _ => r

theorem candidate_eq (c : Change M) (r : Roster M) : c.candidate r = (c.offer r).map Prod.fst := by
  cases c <;> rfl

theorem registry_prepared (c : Change M) (r : Roster M) : (c.prepared r).registry = r.registry := by
  cases c <;> rfl

/-- What is registered has the same name on the prepared roster. -/
theorem name_prepared (hr : r.Enrolled) {j : Nat} (hj : j ∈ r.registry.entries) (c : Change M) :
    (c.prepared r).name j = r.name j := by
  cases c with
  | register f => exact name_enroll_of_lt (hr j hj)
  | _ => rfl

/-- The backend to be registered has its name on the prepared roster. -/
theorem name_prepared_of_offer (h : c.offer r = some (i, n)) : (c.prepared r).name i = n := by
  cases c with
  | register f =>
    obtain ⟨rfl, rfl⟩ := Prod.mk.inj (Option.some.inj h)
    exact name_enroll_length f
  | registerAt j =>
    obtain ⟨rfl, rfl⟩ := Prod.mk.inj (Option.some.inj h)
    rfl
  | _ => exact nomatch h

/-- What comes of a registration is decided on the prepared roster. -/
theorem result_eq_of_offer (h : c.offer r = some (i, n)) :
    c.result r =
      if (c.prepared r).registry.Admits (c.prepared r).name i then (.ok (), (c.prepared r).listed i)
      else (.error .invalidName, c.prepared r) := by
  cases c with
  | register f =>
    obtain ⟨rfl, -⟩ := Prod.mk.inj (Option.some.inj h)
    exact result_registerAt r.factories.length (r.enroll f)
  | registerAt j =>
    obtain ⟨rfl, -⟩ := Prod.mk.inj (Option.some.inj h)
    exact result_registerAt j r
  | _ => exact nomatch h

theorem admits_prepared_iff (hr : r.Enrolled) (h : c.offer r = some (i, n)) :
    (c.prepared r).registry.Admits (c.prepared r).name i ↔
      n ≠ "" ∧ i ∉ r.registry.entries ∧ n ∉ r.registry.names r.name := by
  rw [Registry.Admits, name_prepared_of_offer h, registry_prepared, and_congr_right_iff]
  intro _
  constructor
  · intro hall
    refine ⟨fun hi ↦ (hall i hi).1 rfl, fun hn ↦ ?_⟩
    obtain ⟨j, hj, hjn⟩ := List.mem_map.1 hn
    exact (hall j hj).2 ((name_prepared hr hj c).trans hjn)
  · rintro ⟨hi, hn⟩ j hj
    refine ⟨fun hij ↦ hi (hij ▸ hj), fun hjn ↦ hn ?_⟩
    exact List.mem_map.2 ⟨j, hj, (name_prepared hr hj c).symm.trans hjn⟩

/-- **A backend is let in** if it has a name, is not registered, and has the name of nobody who is.
If it is not let in, the registry stays as it is. -/
theorem result_of_offer (hr : r.Enrolled) (h : c.offer r = some (i, n)) :
    if n ≠ "" ∧ i ∉ r.registry.entries ∧ n ∉ r.registry.names r.name then
      (c.result r).1 = .ok () ∧
        (c.apply r).registry = { r.registry with entries := i :: r.registry.entries }
    else (c.result r).1 = .error .invalidName ∧ (c.apply r).registry = r.registry := by
  have he := result_eq_of_offer h
  by_cases ha : n ≠ "" ∧ i ∉ r.registry.entries ∧ n ∉ r.registry.names r.name
  · rw [if_pos ((admits_prepared_iff hr h).2 ha)] at he
    rw [if_pos ha, apply, he]
    refine ⟨rfl, ?_⟩
    rw [listed, registry_prepared]
  · rw [if_neg (mt (admits_prepared_iff hr h).1 ha)] at he
    rw [if_neg ha, apply, he]
    exact ⟨rfl, registry_prepared c r⟩

/-! ## What changes keep up -/

theorem factories_of_offer (h : c.offer r = some (i, n)) :
    (c.apply r).factories = (c.prepared r).factories := by
  rw [apply, result_eq_of_offer h]
  split <;> rfl

theorem length_le_apply (c : Change M) (r : Roster M) :
    r.factories.length ≤ (c.apply r).factories.length := by
  have hgrow (f : Factory M) : r.factories.length ≤ (r.enroll f).factories.length := by
    simp only [Roster.enroll, List.length_append, Nat.le_add_right]
  cases c with
  | register f =>
    rw [factories_of_offer (c := register f) rfl]
    exact hgrow f
  | registerAt j =>
    rw [factories_of_offer (c := registerAt j) rfl]
    exact Nat.le_refl _
  | enroll f => exact hgrow f
  | rename j name => exact Nat.le_of_eq (List.length_modify ..).symm
  | prefer name => exact Nat.le_refl _

/-- Who is on a roster makes buses in the same way after a change. -/
theorem maker_apply (hi : i < r.factories.length) (c : Change M) :
    (c.apply r).factories[i]?.map Factory.maker = r.factories[i]?.map Factory.maker := by
  have henroll (f : Factory M) :
      (r.enroll f).factories[i]?.map Factory.maker = r.factories[i]?.map Factory.maker := by
    simp only [Roster.enroll, List.getElem?_append_left hi]
  cases c with
  | register f =>
    rw [factories_of_offer (c := register f) rfl]
    exact henroll f
  | registerAt j =>
    rw [factories_of_offer (c := registerAt j) rfl]
    rfl
  | enroll f => exact henroll f
  | rename j name =>
    show ((r.factories.modify j _)[i]?).map Factory.maker = _
    rw [List.getElem?_modify]
    split
    · cases r.factories[i]? <;> rfl
    · simp
  | prefer name => rfl

/-- What is let in is on the roster, because it has a name. -/
theorem lt_of_accepted (h : c.accepted r = some i) : i < (c.apply r).factories.length := by
  rw [accepted, candidate_eq] at h
  cases ho : c.offer r with
  | none =>
    rw [ho] at h
    split at h <;> exact absurd h (Option.some_ne_none i).symm
  | some p =>
    obtain ⟨j, n⟩ := p
    rw [ho, result_eq_of_offer ho] at h
    by_cases ha : (c.prepared r).registry.Admits (c.prepared r).name j
    · rw [if_pos ha] at h
      obtain rfl : j = i := Option.some.inj h
      rw [factories_of_offer ho]
      exact lt_of_name_ne_empty ha.1
    · rw [if_neg ha] at h
      exact absurd h (Option.some_ne_none i).symm

theorem enrolled_apply (hr : r.Enrolled) (c : Change M) : (c.apply r).Enrolled := by
  intro i hi
  rw [entries_apply, List.mem_append, Option.mem_toList] at hi
  rcases hi with hi | hi
  · exact lt_of_accepted hi
  · exact Nat.lt_of_lt_of_le (hr i hi) (length_le_apply c r)

/-- Whether nobody has another name after a change. -/
def KeepsNames (r : Roster M) (c : Change M) : Prop :=
  ∀ i < r.factories.length, (c.apply r).name i = r.name i

instance (r : Roster M) (c : Change M) : Decidable (c.KeepsNames r) :=
  inferInstanceAs (Decidable (∀ i < r.factories.length, _))

/-- **Names stay apart** if nobody's name changes. -/
theorem wellNamed_apply (hr : r.Enrolled) (h : r.registry.WellNamed r.name)
    (hc : c.KeepsNames r) : (c.apply r).registry.WellNamed (c.apply r).name := by
  cases ho : c.offer r with
  | none =>
    have he : (c.apply r).registry.entries = r.registry.entries := by
      rw [entries_apply, accepted, candidate_eq, ho]
      split <;> rfl
    exact h.congr he fun j hj ↦ hc j (hr j hj)
  | some p =>
    obtain ⟨i, n⟩ := p
    have hp : (c.prepared r).registry.WellNamed (c.prepared r).name :=
      h.congr (congrArg _ (registry_prepared c r)) fun j hj ↦ name_prepared hr hj c
    rw [apply, result_eq_of_offer ho]
    by_cases ha : (c.prepared r).registry.Admits (c.prepared r).name i
    · rw [if_pos ha]
      exact hp.cons ha
    · rw [if_neg ha]
      exact hp

end Change

/-! ## Histories -/

/-- Whether nobody's name changes in a number of changes. -/
def Steady : List (Change M) → Roster M → Prop
  | [], _ => True
  | c :: cs, r => c.KeepsNames r ∧ Steady cs (c.apply r)

instance Steady.decidable : (cs : List (Change M)) → (r : Roster M) → Decidable (Steady cs r)
  | [], _ => inferInstanceAs (Decidable True)
  | c :: cs, r =>
    have := Steady.decidable cs (c.apply r)
    inferInstanceAs (Decidable (c.KeepsNames r ∧ Steady cs (c.apply r)))

theorem enrolled_after (cs : List (Change M)) (hr : r.Enrolled) : (after cs r).Enrolled := by
  induction cs generalizing r with
  | nil => exact hr
  | cons c cs ih => exact ih (Change.enrolled_apply hr c)

theorem maker_after (hi : i < r.factories.length) (cs : List (Change M)) :
    (after cs r).factories[i]?.map Factory.maker = r.factories[i]?.map Factory.maker := by
  induction cs generalizing r with
  | nil => rfl
  | cons c cs ih =>
    rw [after, ih (Nat.lt_of_lt_of_le hi (Change.length_le_apply c r)), Change.maker_apply hi]

theorem wellNamed_after {cs : List (Change M)} (hr : r.Enrolled)
    (h : r.registry.WellNamed r.name) (hs : Steady cs r) :
    (after cs r).registry.WellNamed (after cs r).name := by
  induction cs generalizing r with
  | nil => exact h
  | cons c cs ih =>
    exact ih (Change.enrolled_apply hr c) (Change.wellNamed_apply hr h hs.1) hs.2

/-! ## Calls -/

/-- A call to a roster: to change it, or to make a bus with it, by whatever its backends do. -/
inductive Call (M : Type) (S : Interface) (β : Type) where
  | change (c : Change M)
  | create (make : Factory M → Program S (Except Error β)) (c : Connect)

/-- The change that a call makes, if it makes one. -/
def Call.change? : Call M S β → Option (Change M)
  | change c => some c
  | create _ _ => none

/-- What came of a call, and for a change, the backend that it was to register. -/
inductive Deed (M β : Type) where
  | change (c : Change M) (candidate : Option Nat) (result : Except Error Unit)
  | create (c : Connect) (result : Except Error β)

/-- The backend that was registered. -/
def Deed.registered? : Deed M β → Option Nat
  | change _ candidate (.ok _) => candidate
  | _ => none

/-- Takes a call. -/
def take : Call M S β → Roster M → Program S (Deed M β × Roster M)
  | .change c, r => ((c.perform r).interpret fun q : Empty ↦ q.elim).bind fun (result, r') ↦
    .done (.change c (c.candidate r) result, r')
  | .create make c, r => (r.createBus make c).bind fun result ↦ .done (.create c result, r)

/-- Takes a number of calls. -/
def serve : List (Call M S β) → Roster M → Program S (List (Deed M β) × Roster M)
  | [], r => .done ([], r)
  | c :: cs, r => (take c r).bind fun (d, r') ↦
    (serve cs r').bind fun (ds, r'') ↦ .done (d :: ds, r'')

/-- Whoever asks nothing comes to the same in all surroundings. -/
theorem eq_of_runs_interpret_silence {α : Type} {p : Program Program.silence α}
    {answer : (q : Empty) → Program S (Program.silence.Reply q)} {t : Trace S} {a : α}
    (h : (p.interpret answer).Runs t a) : a = p.outcome.1 := by
  induction p generalizing t with
  | done b => exact (Program.runs_done.1 h).2
  | report e p ih =>
    obtain ⟨u, -, hu⟩ := Program.runs_report.1 h
    exact ih hu
  | ask q k ih => exact Empty.elim q

/-- The changes among some calls. -/
def changes (calls : List (Call M S β)) : List (Change M) := calls.filterMap Call.change?

theorem changes_cons_change (c : Change M) (calls : List (Call M S β)) :
    changes (.change c :: calls) = c :: changes calls := rfl

theorem runs_take_change {c : Change M} {t : Trace S} {d : Deed M β}
    (h : (take (.change c) r).Runs t (d, r')) :
    d = .change c (c.candidate r) (c.result r).1 ∧ r' = c.apply r := by
  obtain ⟨t₁, ⟨result, r₁⟩, t₂, h₁, h₂, rfl⟩ := Program.runs_bind.1 h
  have hr : (result, r₁) = c.result r := eq_of_runs_interpret_silence h₁
  obtain ⟨_, hd⟩ := Program.runs_done.1 h₂
  obtain ⟨rfl, rfl⟩ := Prod.mk.inj hd
  rw [Change.apply, ← hr]
  exact ⟨rfl, rfl⟩

theorem runs_take_create {make : Factory M → Program S (Except Error β)} {c : Connect}
    {t : Trace S} {d : Deed M β} (h : (take (.create make c) r).Runs t (d, r')) :
    d.registered? = none ∧ r' = r := by
  obtain ⟨t₁, result, t₂, h₁, h₂, rfl⟩ := Program.runs_bind.1 h
  obtain ⟨_, hd⟩ := Program.runs_done.1 h₂
  obtain ⟨rfl, rfl⟩ := Prod.mk.inj hd
  exact ⟨rfl, rfl⟩

theorem registered?_change (c : Change M) (r : Roster M) :
    (Deed.change c (c.candidate r) (c.result r).1 : Deed M β).registered? = c.accepted r := by
  rw [Change.accepted]
  cases (c.result r).1 <;> rfl

/-- **A roster is what its changes made of it**, however many buses were made in between. -/
theorem runs_serve {calls : List (Call M S β)} {t : Trace S} {ds : List (Deed M β)}
    (h : (serve calls r).Runs t (ds, r')) :
    r' = after (changes calls) r ∧ ds.filterMap Deed.registered? = accepted (changes calls) r := by
  induction calls generalizing r t ds with
  | nil =>
    obtain ⟨_, hd⟩ := Program.runs_done.1 h
    obtain ⟨rfl, rfl⟩ := Prod.mk.inj hd
    exact ⟨rfl, rfl⟩
  | cons c calls ih =>
    obtain ⟨t₁, ⟨d, r₁⟩, t₂, h₁, h₂, rfl⟩ := Program.runs_bind.1 h
    obtain ⟨t₃, ⟨ds₁, r₂⟩, t₄, h₃, h₄, rfl⟩ := Program.runs_bind.1 h₂
    obtain ⟨_, hd⟩ := Program.runs_done.1 h₄
    obtain ⟨rfl, rfl⟩ := Prod.mk.inj hd
    obtain ⟨hr, hds⟩ := ih h₃
    cases c with
    | change c =>
      obtain ⟨rfl, rfl⟩ := runs_take_change h₁
      refine ⟨hr, ?_⟩
      rw [changes_cons_change, accepted, ← hds, List.filterMap_cons, registered?_change]
      cases c.accepted r <;> rfl
    | create make c =>
      obtain ⟨hd, rfl⟩ := runs_take_create h₁
      exact ⟨hr, (List.filterMap_cons_none hd).trans hds⟩

/-- **What a registry lets in.**  After any calls to a roster that starts out empty, and whatever
backends make of requests for a bus, the registry holds the backends whose registration was
accepted, the last one first and none twice.  The next registration is accepted if the backend has a
name, is not registered, and has the name of nobody who is at that time.  Otherwise it is refused,
and the registry and what it prefers stay as they are.  If nobody's name changed, then all names in
the registry are names, and no two are the same. -/
theorem registry_of_serve {calls : List (Call M S β)} {t : Trace S} {ds : List (Deed M β)}
    (h : (serve calls {}).Runs t (ds, r)) :
    r.registry.entries = (ds.filterMap Deed.registered?).reverse ∧ r.registry.entries.Nodup ∧
      (∀ (c : Change M) i n, c.offer r = some (i, n) →
        if n ≠ "" ∧ i ∉ r.registry.entries ∧ n ∉ r.registry.names r.name then
          (c.result r).1 = .ok () ∧
            (c.apply r).registry = { r.registry with entries := i :: r.registry.entries }
        else (c.result r).1 = .error .invalidName ∧ (c.apply r).registry = r.registry) ∧
      (Steady (changes calls) {} →
        "" ∉ r.registry.names r.name ∧ (r.registry.names r.name).Nodup) := by
  obtain ⟨rfl, hds⟩ := runs_serve h
  have hempty : ({} : Roster M).Enrolled := nofun
  refine ⟨?_, nodup_after _ List.nodup_nil, fun c i n ho ↦ ?_, fun hs ↦ ?_⟩
  · rw [entries_after, hds]
    exact List.append_nil _
  · exact Change.result_of_offer (enrolled_after _ hempty) ho
  · have hw := wellNamed_after hempty (.of_empty none) hs
    exact ⟨hw.named, hw.distinct⟩

/-- Two backends are accepted and three are refused: one for its name, one without a name, and one
that is there already.  A bus is made in between. -/
theorem registry_of_serve_two :
    let make : Factory Unit → Program Program.silence (Except Error String) :=
      fun f ↦ .done (.ok f.name)
    let calls : List (Call Unit Program.silence String) :=
      [.change (.register ⟨"a", ()⟩), .change (.register ⟨"a", ()⟩), .create make {},
        .change (.register ⟨"", ()⟩), .change (.enroll ⟨"b", ()⟩), .change (.registerAt 3),
        .change (.prefer (some "a")), .change (.registerAt 3)]
    let r := after (changes calls) {}
    (∃ t ds, (serve calls {}).Runs t (ds, r)) ∧ r.registry.entries = [3, 0] ∧
      (r.registry.names r.name).Nodup := by
  intro make calls r
  obtain ⟨t, ⟨ds, r₁⟩, h⟩ : ∃ t p, (serve calls {}).Runs t p :=
    ⟨_, _, Program.runs_under (fun q : Empty ↦ q.elim) _⟩
  obtain rfl : r₁ = r := (runs_serve h).1
  obtain ⟨_, _, _, hnames⟩ := registry_of_serve h
  exact ⟨⟨t, ds, h⟩, by decide, (hnames (by decide)).2⟩

end Roster

end BusAccess
