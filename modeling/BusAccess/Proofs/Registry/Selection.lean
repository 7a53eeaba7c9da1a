import BusAccess.Proofs.Uri.Scan
import BusAccess.Registry

/-!
# Which backend a request is for

`selects` steps a cursor over a name and looks at what comes next.  `Meant` says the same without a
cursor: the request is the name, or the name and a colon and anything.  The two agree on all
strings (`selects_iff`), the empty ones included; an empty name is meant by nothing, not even by an
empty request.

If a name has no colon in it, then it is meant exactly by the requests whose text up to the first
colon it is (`meant_iff_scheme`).  So among such names a request decides on one.  Names with colons
can be meant by one request together, as `a` and `a:b` are by `a:b:c`, and then the order of the
registry decides; this is why what is asked is the *first* backend that is meant (`IsFirst`).
-/

set_option autoImplicit false

namespace BusAccess

/-! ## Names -/

/-- Whether a request is for the backend of a name. -/
def Meant (name requested : String) : Prop :=
  name ≠ "" ∧ (requested = name ∨ ∃ tail, requested = name ++ ":" ++ tail)

/-- A request is for a name if behind the name is its end or a colon. -/
theorem meant_iff_toList (name requested : String) :
    Meant name requested ↔
      name ≠ "" ∧ ∃ cs, requested.toList = name.toList ++ cs ∧
        (cs = [] ∨ cs.head? = some ':') := by
  rw [Meant, and_congr_right_iff]
  intro _
  constructor
  · rintro (rfl | ⟨tail, rfl⟩)
    · exact ⟨[], (List.append_nil _).symm, .inl rfl⟩
    · refine ⟨':' :: tail.toList, ?_, .inr rfl⟩
      simp [String.toList_append]
  · rintro ⟨cs, h, rfl | hc⟩
    · left
      rw [← String.toList_inj, h, List.append_nil]
    · obtain ⟨tail, rfl⟩ := List.head?_eq_some_iff.1 hc
      right
      refine ⟨String.ofList tail, ?_⟩
      rw [← String.toList_inj, h]
      simp [String.toList_append]

/-- **The cursor finds out what is meant.** -/
theorem selects_iff (name requested : String) :
    selects name requested = true ↔ Meant name requested := by
  rw [meant_iff_toList]
  by_cases hp : name.toList <+: requested.toList
  · obtain ⟨cs, hcs⟩ := hp
    simp only [← hcs, List.append_cancel_left_eq, exists_eq_left', selects,
      Uri.Cursor.ofString_eq, Uri.Cursor.matched_mk, Uri.Pattern.matched_literal_append,
      Uri.Cursor.advance_literal_append, Uri.Cursor.rest_mk, Bool.and_eq_true, Bool.not_eq_true',
      Bool.eq_false_iff, ne_eq, List.isEmpty_iff, String.toList_eq_nil_iff]
    cases cs with
    | nil => simp
    | cons c cs => simp
  · simp only [selects, Uri.Cursor.ofString_eq, Uri.Cursor.matched_mk,
      Uri.Pattern.matched_literal_of_not_prefix hp, List.isEmpty_nil, Bool.not_true,
      Bool.false_and, Bool.false_eq_true, false_iff]
    rintro ⟨_, cs, hcs, _⟩
    exact hp ⟨cs, hcs.symm⟩

/-- A request up to its first colon. -/
def scheme (requested : String) : String :=
  String.ofList (requested.toList.takeWhile (· ≠ ':'))

/-- A name without colons is meant by what it is the scheme of. -/
theorem meant_iff_scheme {name : String} (h : ':' ∉ name.toList) (requested : String) :
    Meant name requested ↔ name ≠ "" ∧ name = scheme requested := by
  have hall : ∀ c ∈ name.toList, decide (c ≠ ':') = true := by
    intro c hc
    exact decide_eq_true fun e ↦ h (e ▸ hc)
  rw [meant_iff_toList, and_congr_right_iff, ← String.toList_inj, scheme, String.toList_ofList]
  intro _
  constructor
  · rintro ⟨cs, hcs, hc⟩
    rw [hcs, List.takeWhile_append_of_pos hall]
    rcases hc with rfl | hc
    · rw [List.takeWhile_nil, List.append_nil]
    · obtain ⟨tail, rfl⟩ := List.head?_eq_some_iff.1 hc
      rw [List.takeWhile_cons_of_neg (by decide), List.append_nil]
  · intro hs
    refine ⟨requested.toList.dropWhile (· ≠ ':'), ?_, ?_⟩
    · rw [hs, List.takeWhile_append_dropWhile]
    · cases hrest : requested.toList.dropWhile (· ≠ ':') with
      | nil => exact .inl rfl
      | cons c cs =>
        have hc := List.head?_dropWhile_not (· ≠ ':') requested.toList
        rw [hrest] at hc
        right
        simpa using hc

/-! ## The first of a list -/

/-- Whether `i` is the first of a list that has a property. -/
def IsFirst {α : Type} (P : α → Prop) (l : List α) (i : α) : Prop :=
  ∃ newer older, l = newer ++ i :: older ∧ P i ∧ ∀ j ∈ newer, ¬ P j

namespace IsFirst

variable {α : Type} {P Q : α → Prop} {l : List α} {i : α}

theorem mem (h : IsFirst P l i) : i ∈ l := by
  obtain ⟨newer, older, rfl, _, _⟩ := h
  exact List.mem_append_right _ (List.mem_cons_self ..)

theorem holds (h : IsFirst P l i) : P i := by
  obtain ⟨newer, older, _, hi, _⟩ := h
  exact hi

/-- What is first depends on whether the members of the list have the property. -/
theorem congr (h : IsFirst P l i) (hpq : ∀ j ∈ l, P j ↔ Q j) : IsFirst Q l i := by
  have hm := h.mem
  obtain ⟨newer, older, rfl, hi, hn⟩ := h
  refine ⟨newer, older, rfl, (hpq i hm).1 hi, ?_⟩
  intro j hj hq
  exact hn j hj ((hpq j (List.mem_append_left _ hj)).2 hq)

end IsFirst

/-- Either nothing in a list has a property, or something is the first that has it. -/
theorem forall_not_or_isFirst {α : Type} (P : α → Prop) (l : List α) :
    (∀ j ∈ l, ¬ P j) ∨ ∃ i, IsFirst P l i := by
  induction l with
  | nil => exact .inl nofun
  | cons i l ih =>
    by_cases hi : P i
    · exact .inr ⟨i, [], l, rfl, hi, nofun⟩
    · rcases ih with h | ⟨k, newer, older, rfl, hk, h⟩
      · exact .inl (List.forall_mem_cons.2 ⟨hi, h⟩)
      · exact .inr ⟨k, i :: newer, older, rfl, hk, List.forall_mem_cons.2 ⟨hi, h⟩⟩

/-- Among names without colons, the first that is meant is the first of the one name that is. -/
theorem IsFirst.meant {ι : Type} {name : ι → String} {entries : List ι} {n u : String} {i : ι}
    (hi : IsFirst (fun j ↦ name j = n) entries i)
    (hc : ∀ j ∈ entries, ':' ∉ (name j).toList) (h : Meant n u) :
    IsFirst (fun j ↦ Meant (name j) u) entries i := by
  have hn : name i = n := hi.holds
  obtain ⟨hne, hs⟩ := (meant_iff_scheme (hn ▸ hc i hi.mem) u).1 h
  refine hi.congr fun j hj ↦ ?_
  rw [meant_iff_scheme (hc j hj), ← hs]
  constructor
  · intro hj
    exact ⟨hj ▸ hne, hj⟩
  · exact And.right

namespace Registry

variable {ι : Type} (name : ι → String) (r : Registry ι)

theorem find?_eq_some_iff {wanted : String} {i : ι} :
    r.find? name wanted = some i ↔ IsFirst (fun j ↦ Meant (name j) wanted) r.entries i := by
  rw [find?, List.find?_eq_some_iff_append]
  simp only [IsFirst, ← selects_iff, Bool.not_eq_true', Bool.not_eq_true]
  constructor
  · rintro ⟨hi, newer, older, he, h⟩
    exact ⟨newer, older, he, hi, h⟩
  · rintro ⟨newer, older, he, hi, h⟩
    exact ⟨hi, newer, older, he, h⟩

theorem find?_eq_none_iff {wanted : String} :
    r.find? name wanted = none ↔ ∀ i ∈ r.entries, ¬ Meant (name i) wanted := by
  simp only [find?, List.find?_eq_none, selects_iff]

end Registry

end BusAccess
