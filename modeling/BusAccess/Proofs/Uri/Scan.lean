import BusAccess.Uri.Integer
import Mathlib.Data.List.TakeWhile

/-!
# Taking a grammar apart

The grammars of the backends are chains of steps on a cursor.  To know what strings a grammar
accepts, one follows the chain from the front, and at each step there are two cases: the step finds
what it looks for, or it does not.

For a fixed text these are `Scan.literal_hit` and `Scan.literal_miss`.  The other steps are
equations too, all of them for a cursor given by the characters passed and the characters left.
`Scan.bind_eq_ok` is the link between one step and the next: a chain succeeds exactly when its
first step does, and the rest of it does from where that one stopped.  `Scan.literal_bind_eq_ok`
and `Scan.take_bind_eq_ok` say the same for chains that start with one of the two scans.

What is not accepted is refused for some fault.  A grammar all of whose steps look for the same fault
(`Scan.Faults`) has no other to find.
-/

set_option autoImplicit false

namespace BusAccess.Uri

/-! ## Pieces -/

@[simp] theorem Pattern.matched_literal_append (text : String) (cs : List Char) :
    (literal text).matched (text.toList ++ cs) = text.toList := by
  have h : text.toList.isPrefixOf (text.toList ++ cs) = true :=
    List.isPrefixOf_iff_prefix.2 (List.prefix_append _ _)
  simp only [matched, h, if_true]

theorem Pattern.matched_literal_of_not_prefix {text : String} {cs : List Char}
    (h : ¬ text.toList <+: cs) : (literal text).matched cs = [] := by
  rw [← List.isPrefixOf_iff_prefix, Bool.not_eq_true] at h
  simp only [matched, h, Bool.false_eq_true, if_false]

/-- A stretch at the start of a text is the longest whose characters pass a test if all of them do
and the next one does not. -/
theorem takeWhile_append_eq_iff {q : Char → Bool} {piece rest : List Char} :
    (piece ++ rest).takeWhile q = piece ↔
      (∀ c ∈ piece, q c = true) ∧ ∀ c ∈ rest.head?, q c = false := by
  constructor
  · intro h
    have hall : ∀ c ∈ piece, q c = true := by
      intro c hc
      rw [← h] at hc
      exact List.mem_takeWhile_imp hc
    refine ⟨hall, fun c hc ↦ ?_⟩
    obtain ⟨ds, rfl⟩ := List.head?_eq_some_iff.1 hc
    rw [List.takeWhile_append_of_pos hall, List.append_right_eq_self, List.takeWhile_eq_nil_iff] at h
    exact Bool.eq_false_iff.2 (h (Nat.succ_pos _))
  · rintro ⟨hall, hrest⟩
    rw [List.takeWhile_append_of_pos hall, List.append_right_eq_self]
    cases rest with
    | nil => rfl
    | cons c cs => exact List.takeWhile_cons_of_neg (Bool.eq_false_iff.1 (hrest c rfl))

/-- A stretch that starts behind `n` characters ends within the text, unless it is empty. -/
theorem add_length_takeWhile_le {q : Char → Bool} {n : Nat} {cs : List Char}
    (h : (cs.drop n).takeWhile q ≠ []) : n + ((cs.drop n).takeWhile q).length ≤ cs.length := by
  have hpos := List.length_pos_iff.2 h
  have hle := (List.takeWhile_prefix (l := cs.drop n) q).length_le
  rw [List.length_drop] at hle
  omega

/-- An integer is read within the text. -/
theorem length_readInteger_le (base : Nat) (cs : List Char) :
    (readInteger base cs).length ≤ cs.length := by
  simp only [readInteger, List.drop_drop]
  split
  case isTrue => exact Nat.zero_le _
  case isFalse h => exact add_length_takeWhile_le (mt List.isEmpty_iff.2 h)

theorem toBusNumber?_eq_some_iff {v : Int} {n : UInt32} :
    toBusNumber? v = some n ↔ v = n.toNat := by
  rw [toBusNumber?]
  split
  case isTrue h =>
    rw [Option.some.injEq, ← UInt32.toNat_inj, UInt32.toNat_ofNat_of_lt' (by omega)]
    omega
  case isFalse h =>
    have hn := n.toNat_lt_size
    exact iff_of_false nofun fun hv ↦ h (by omega)

namespace Cursor

@[simp] theorem rest_mk (passed cs : List Char) : (⟨passed, some cs⟩ : Cursor).rest = cs := rfl

@[simp] theorem matched_mk (passed cs : List Char) (p : Pattern) :
    (⟨passed, some cs⟩ : Cursor).matched p = p.matched cs := rfl

@[simp] theorem skip_mk (passed cs : List Char) (n : Nat) :
    (⟨passed, some cs⟩ : Cursor).skip n = ⟨passed ++ cs.take n, some (cs.drop n)⟩ := rfl

theorem ofString_eq (source : String) : ofString source = ⟨[], some source.toList⟩ := rfl

/-- Behind a fixed text that comes next. -/
theorem advance_literal_append (passed : List Char) (text : String) (cs : List Char) :
    (⟨passed, some (text.toList ++ cs)⟩ : Cursor).advance (.literal text) =
      ⟨passed ++ text.toList, some cs⟩ := by
  rw [advance, matched_mk, Pattern.matched_literal_append, skip_mk, List.take_left,
    List.drop_left]

/-- A fixed text that does not come next moves nothing. -/
theorem advance_literal_of_not_prefix (passed : List Char) {text : String} {cs : List Char}
    (h : ¬ text.toList <+: cs) :
    (⟨passed, some cs⟩ : Cursor).advance (.literal text) = ⟨passed, some cs⟩ := by
  rw [advance, matched_mk, Pattern.matched_literal_of_not_prefix h, skip_mk, List.length_nil,
    List.take_zero, List.append_nil, List.drop_zero]

end Cursor

/-! ## Steps -/

namespace Scan

variable {ε α β : Type}

/-- A chain of steps succeeds when its first step does, and then the rest. -/
theorem bind_eq_ok {x : Scan ε α} {f : α → Scan ε β} {c : Cursor} {r : β × Cursor} :
    (x >>= f) c = .ok r ↔ ∃ a c', x c = .ok (a, c') ∧ f a c' = .ok r := by
  show (x c).bind (fun y ↦ f y.1 y.2) = .ok r ↔ _
  cases h : x c with
  | error e => simp [Except.bind]
  | ok y =>
    simp only [Except.bind, Except.ok.injEq]
    constructor
    · intro hr
      exact ⟨y.1, y.2, rfl, hr⟩
    · rintro ⟨_, _, rfl, hr⟩
      exact hr

/-- A chain goes on behind its first step. -/
theorem bind_of_ok {x : Scan ε α} {f : α → Scan ε β} {a : α} {c c' : Cursor}
    (h : x c = .ok (a, c')) : (x >>= f) c = f a c' := by
  show (x c).bind (fun y ↦ f y.1 y.2) = _
  rw [h, Except.bind]

/-- A chain stops at a fault. -/
theorem bind_of_error {x : Scan ε α} {f : α → Scan ε β} {e : ε} {c : Cursor}
    (h : x c = .error e) : (x >>= f) c = .error e := by
  show (x c).bind (fun y ↦ f y.1 y.2) = _
  rw [h, Except.bind]

@[simp] theorem pure_eq_ok {a : α} {c : Cursor} {r : α × Cursor} :
    (pure a : Scan ε α) c = .ok r ↔ r = (a, c) := by
  show Except.ok (a, c) = .ok r ↔ _
  rw [Except.ok.injEq, eq_comm]

@[simp] theorem throw_ne_ok {e : ε} {c : Cursor} {r : α × Cursor} :
    (throw e : Scan ε α) c ≠ .ok r := nofun

theorem literal_hit {text : String} (h : text ≠ "") (passed cs : List Char) :
    (literal text : Scan ε Bool) ⟨passed, some (text.toList ++ cs)⟩ =
      .ok (true, ⟨passed ++ text.toList, some cs⟩) := by
  have hne : text.toList.isEmpty = false := by
    rw [Bool.eq_false_iff, ne_eq, List.isEmpty_iff, String.toList_eq_nil_iff]
    exact h
  rw [literal, Cursor.matched_mk, Pattern.matched_literal_append, hne,
    Cursor.advance_literal_append, Bool.not_false]

theorem literal_miss {text : String} {cs : List Char} (h : ¬ text.toList <+: cs)
    (passed : List Char) :
    (literal text : Scan ε Bool) ⟨passed, some cs⟩ = .ok (false, ⟨passed, some cs⟩) := by
  rw [literal, Cursor.matched_mk, Pattern.matched_literal_of_not_prefix h,
    Cursor.advance_literal_of_not_prefix passed h, List.isEmpty_nil, Bool.not_true]

/-- Whether a fixed text comes next, it is taken, or it does not. -/
theorem literal_cases {text : String} (h : text ≠ "") {passed cs : List Char}
    {r : Bool × Cursor} (hr : (literal text : Scan ε Bool) ⟨passed, some cs⟩ = .ok r) :
    (∃ ds, cs = text.toList ++ ds ∧ r = (true, ⟨passed ++ text.toList, some ds⟩)) ∨
      (¬ text.toList <+: cs ∧ r = (false, ⟨passed, some cs⟩)) := by
  by_cases hp : text.toList <+: cs
  · obtain ⟨ds, rfl⟩ := hp
    rw [literal_hit h, Except.ok.injEq] at hr
    exact .inl ⟨ds, rfl, hr.symm⟩
  · rw [literal_miss hp, Except.ok.injEq] at hr
    exact .inr ⟨hp, hr.symm⟩

/-- A chain goes on behind a fixed text that comes next, or else where it is. -/
theorem literal_bind_eq_ok {text : String} (h : text ≠ "") {k : Bool → Scan ε α}
    {passed cs : List Char} {r : α × Cursor} :
    (literal text >>= k) ⟨passed, some cs⟩ = .ok r ↔
      (∃ ds, cs = text.toList ++ ds ∧ k true ⟨passed ++ text.toList, some ds⟩ = .ok r) ∨
        ¬ text.toList <+: cs ∧ k false ⟨passed, some cs⟩ = .ok r := by
  rw [bind_eq_ok]
  constructor
  · rintro ⟨ok, c, hl, hk⟩
    rcases literal_cases h hl with ⟨ds, rfl, hc⟩ | ⟨hp, hc⟩
    · obtain ⟨rfl, rfl⟩ := Prod.mk.inj hc
      exact .inl ⟨ds, rfl, hk⟩
    · obtain ⟨rfl, rfl⟩ := Prod.mk.inj hc
      exact .inr ⟨hp, hk⟩
  · rintro (⟨ds, rfl, hk⟩ | ⟨hp, hk⟩)
    · exact ⟨true, _, literal_hit h passed ds, hk⟩
    · exact ⟨false, _, literal_miss hp passed, hk⟩

/-- A chain goes on behind what a pattern takes. -/
theorem take_bind_eq_ok {p : Pattern} {k : List Char → Scan ε α} {passed cs : List Char}
    {r : α × Cursor} :
    (take p >>= k) ⟨passed, some cs⟩ = .ok r ↔
      ∃ ds, cs = p.matched cs ++ ds ∧
        k (p.matched cs) ⟨passed ++ p.matched cs, some ds⟩ = .ok r := by
  obtain ⟨ds, hds⟩ := p.matched_isPrefix cs
  have htake : cs.take (p.matched cs).length = p.matched cs :=
    (List.prefix_iff_eq_take.1 (p.matched_isPrefix cs)).symm
  have hdrop : cs.drop (p.matched cs).length = ds := by
    have h := List.take_append_drop (p.matched cs).length cs
    rw [htake] at h
    exact List.append_cancel_left (h.trans hds.symm)
  have hadvance : (⟨passed, some cs⟩ : Cursor).advance p = ⟨passed ++ p.matched cs, some ds⟩ := by
    rw [Cursor.advance, Cursor.matched_mk, Cursor.skip_mk, htake, hdrop]
  rw [bind_eq_ok]
  constructor
  · rintro ⟨piece, c, ht, hk⟩
    obtain ⟨rfl, rfl⟩ := Prod.mk.inj (Except.ok.inj ht)
    exact ⟨ds, hds.symm, by rwa [hadvance] at hk⟩
  · rintro ⟨ds', hds', hk⟩
    obtain rfl : ds = ds' := List.append_cancel_left (hds.trans hds')
    exact ⟨_, _, rfl, by rwa [← hadvance] at hk⟩

theorem demand_eq_ok {ok : Bool} {fault : ε} {c : Cursor} {r : Unit × Cursor} :
    (demand ok fault : Scan ε Unit) c = .ok r ↔ ok = true ∧ r = ((), c) := by
  cases ok with
  | false => simp [demand]
  | true => simp [demand]

/-- A chain goes on in the same place if what it demands is so. -/
theorem demand_bind_eq_ok {ok : Bool} {fault : ε} {k : Unit → Scan ε α} {c : Cursor}
    {r : α × Cursor} : (demand ok fault >>= k) c = .ok r ↔ ok = true ∧ k () c = .ok r := by
  cases ok with
  | false => exact iff_of_false nofun fun h ↦ absurd h.1 Bool.false_ne_true
  | true => exact (and_iff_right rfl).symm

/-- A chain goes on in the same place with a value that there has to be. -/
theorem require_bind_eq_ok {value : Option β} {fault : ε} {k : β → Scan ε α} {c : Cursor}
    {r : α × Cursor} :
    (require value fault >>= k) c = .ok r ↔ ∃ b, value = some b ∧ k b c = .ok r := by
  cases value with
  | none => exact iff_of_false nofun fun ⟨_, h, _⟩ ↦ absurd h nofun
  | some b =>
    constructor
    · intro h
      exact ⟨b, rfl, h⟩
    · rintro ⟨_, ⟨⟩, h⟩
      exact h

/-- A chain goes on behind a text that it demands. -/
theorem demand_literal_eq_ok {text : String} (h : text ≠ "") {fault : ε} {k : Unit → Scan ε α}
    {passed cs : List Char} {r : α × Cursor} :
    (literal text >>= fun ok ↦ demand ok fault >>= k) ⟨passed, some cs⟩ = .ok r ↔
      ∃ ds, cs = text.toList ++ ds ∧ k () ⟨passed ++ text.toList, some ds⟩ = .ok r := by
  rw [literal_bind_eq_ok h]
  constructor
  · rintro (⟨ds, rfl, hk⟩ | ⟨_, hk⟩)
    · exact ⟨ds, rfl, hk⟩
    · exact absurd hk nofun
  · rintro ⟨ds, rfl, hk⟩
    exact .inl ⟨ds, rfl, hk⟩

theorem finish_eq_ok {fault : ε} {passed cs : List Char} {r : Unit × Cursor} :
    (finish fault : Scan ε Unit) ⟨passed, some cs⟩ = .ok r ↔
      cs = [] ∧ r = ((), ⟨passed, some []⟩) := by
  show (demand (Cursor.atEnd _) fault : Scan ε Unit) ⟨passed, some cs⟩ = .ok r ↔ _
  rw [demand_eq_ok, Cursor.atEnd, Cursor.rest_mk, List.isEmpty_iff]
  constructor
  · rintro ⟨rfl, rfl⟩
    exact ⟨rfl, rfl⟩
  · rintro ⟨rfl, rfl⟩
    exact ⟨rfl, rfl⟩

theorem integer_eq_ok {base : Nat} {passed cs : List Char} {r : Option Int × Cursor} :
    (integer base : Scan ε (Option Int)) ⟨passed, some cs⟩ = .ok r ↔
      r = (if (readInteger base cs).length = 0 then none else some (readInteger base cs).value,
        ⟨passed ++ cs.take (readInteger base cs).length,
          some (cs.drop (readInteger base cs).length)⟩) := by
  rw [integer, Except.ok.injEq, eq_comm]
  rfl

/-- A string is accepted when the grammar gets through on a cursor at its start. -/
theorem parse_eq_ok {x : Scan ε α} {source : String} {a : α} :
    x.parse source = .ok a ↔ ∃ c, x ⟨[], some source.toList⟩ = .ok (a, c) := by
  rw [parse, Cursor.ofString_eq]
  cases h : x ⟨[], some source.toList⟩ with
  | error e => simp [Except.map]
  | ok y => simp [Except.map, Prod.ext_iff]

/-! ## Faults -/

/-- Whether a step finds nothing wrong with a string but one thing. -/
def Faults (fault : ε) (x : Scan ε α) : Prop := ∀ c e, x c = .error e → e = fault

section Faults

variable {fault : ε}

theorem Faults.pure (fault : ε) (a : α) : Faults fault (pure a : Scan ε α) := nofun

theorem Faults.throw (fault : ε) : Faults fault (throw fault : Scan ε α) := by
  rintro c e ⟨⟩
  rfl

theorem Faults.bind {x : Scan ε α} {f : α → Scan ε β} (hx : Faults fault x)
    (hf : ∀ a, Faults fault (f a)) : Faults fault (x >>= f) := by
  intro c e h
  cases hc : x c with
  | ok y => exact hf y.1 y.2 e ((bind_of_ok hc).symm.trans h)
  | error e' =>
    rw [bind_of_error hc, Except.error.injEq] at h
    exact hx c e (h ▸ hc)

theorem Faults.take (fault : ε) (p : Pattern) : Faults fault (take p) := nofun

theorem Faults.literal (fault : ε) (text : String) : Faults fault (literal text) := nofun

theorem Faults.integer (fault : ε) (base : Nat) : Faults fault (integer base) := nofun

theorem Faults.demand (fault : ε) (ok : Bool) : Faults fault (demand ok fault) := by
  cases ok with
  | false => exact .throw fault
  | true => exact .pure fault ()

theorem Faults.require (fault : ε) (value : Option α) : Faults fault (require value fault) := by
  cases value with
  | none => exact .throw fault
  | some a => exact .pure fault a

theorem Faults.finish (fault : ε) : Faults fault (finish fault) :=
  fun c ↦ Faults.demand fault c.atEnd c

theorem Faults.busNumberPath (fault : ε) : Faults fault (busNumberPath fault) := by
  refine .bind (.literal fault _) fun hasPath ↦ ?_
  cases hasPath with
  | false => exact .pure fault none
  | true =>
    refine .bind (.integer fault 10) fun found ↦ ?_
    cases found with
    | none => exact .pure fault none
    | some v =>
      cases hv : toBusNumber? v with
      | none =>
        simp only [hv]
        exact .throw fault
      | some n =>
        simp only [hv]
        exact .pure fault (some n)

/-- A grammar that can find one thing wrong finds it in every string that it does not accept. -/
theorem Faults.parse {x : Scan ε α} {source : String} (hx : Faults fault x)
    (hnone : ∀ a, x.parse source ≠ .ok a) : x.parse source = .error fault := by
  rw [Scan.parse] at hnone ⊢
  cases hc : x (.ofString source) with
  | ok y =>
    rw [hc] at hnone
    exact absurd rfl (hnone y.1)
  | error e =>
    obtain rfl := hx _ e hc
    rfl

end Faults

end Scan

end BusAccess.Uri
