import BusAccess.Proofs.Uri.Scan

/-!
# Paths

Where a connection string has a bus number, it has it in its path, and the path is the end of the
string.  It can be left out, and so can the number behind its slash.  What the number is, is up to
`readInteger`; it has to be all that is left, and fit into 32 bits without a sign.

A scan for a path never goes back.  If it finds no integer behind the slash then it stands there, and
what is left is no path unless it is nothing (`Scan.path_eq_ok`).
-/

set_option autoImplicit false

namespace BusAccess.Uri

/-- The texts that say which bus, if any. -/
inductive Path : Option UInt32 → List Char → Prop
  | omitted : Path none []
  | slash : Path none ['/']
  | number {cs : List Char} {n : UInt32} (hne : cs ≠ [])
      (h : readInteger 10 cs = ⟨cs.length, n.toNat⟩) : Path (some n) ('/' :: cs)

/-- A path is empty or starts with a slash. -/
theorem Path.head? {n : Option UInt32} {cs : List Char} (h : Path n cs) :
    ∀ c ∈ cs.head?, c = '/' := by
  cases h with
  | omitted => exact nofun
  | slash => exact fun c hc ↦ (Option.some.inj hc).symm
  | number => exact fun c hc ↦ (Option.some.inj hc).symm

namespace Scan

variable {ε α : Type} {fault fault' : ε} {k : Option UInt32 → α} {passed cs : List Char}
  {r : α × Cursor}

/-- Behind the slash of a path, nothing is left or an integer that is a bus number. -/
theorem path_of_integer {n : Option UInt32} {c c' : Cursor}
    (hn : (integer 10 >>= fun
        | none => pure none
        | some v =>
          match toBusNumber? v with
          | some n => pure (some n)
          | none => throw fault : Scan ε (Option UInt32)) ⟨passed, some cs⟩ = .ok (n, c))
    (hf : finish fault' c = .ok ((), c')) :
    Path n ('/' :: cs) ∧ c' = ⟨passed ++ cs, some []⟩ := by
  obtain ⟨found, c₁, hi, hm⟩ := bind_eq_ok.1 hn
  obtain ⟨rfl, rfl⟩ := Prod.mk.inj (integer_eq_ok.1 hi)
  by_cases hz : (readInteger 10 cs).length = 0
  · simp only [hz, if_true, List.take_zero, List.drop_zero, List.append_nil] at hm
    obtain ⟨rfl, rfl⟩ := Prod.mk.inj (pure_eq_ok.1 hm)
    obtain ⟨rfl, hc⟩ := finish_eq_ok.1 hf
    obtain ⟨-, rfl⟩ := Prod.mk.inj hc
    rw [List.append_nil]
    exact ⟨.slash, rfl⟩
  · simp only [if_neg hz] at hm
    cases hv : toBusNumber? (readInteger 10 cs).value with
    | none =>
      rw [hv] at hm
      exact absurd hm throw_ne_ok
    | some b =>
      rw [hv] at hm
      obtain ⟨rfl, rfl⟩ := Prod.mk.inj (pure_eq_ok.1 hm)
      obtain ⟨hd, hc⟩ := finish_eq_ok.1 hf
      obtain ⟨-, rfl⟩ := Prod.mk.inj hc
      have hlen : (readInteger 10 cs).length = cs.length :=
        Nat.le_antisymm (length_readInteger_le 10 cs) (List.drop_eq_nil_iff.1 hd)
      have hne : cs ≠ [] := fun h ↦ hz (by rw [hlen, h, List.length_nil])
      have hr : readInteger 10 cs = ⟨cs.length, b.toNat⟩ := by
        rw [← hlen, ← toBusNumber?_eq_some_iff.1 hv]
      rw [hlen, List.take_length]
      exact ⟨.number hne hr, rfl⟩

/-- The scanner takes a path if nothing comes after it. -/
theorem path_eq_ok :
    (busNumberPath fault >>= fun n ↦ finish fault' >>= fun _ ↦ pure (k n))
        ⟨passed, some cs⟩ = .ok r ↔
      ∃ n, Path n cs ∧ r = (k n, ⟨passed ++ cs, some []⟩) := by
  constructor
  · intro h
    obtain ⟨n, c, hn, h₁⟩ := bind_eq_ok.1 h
    obtain ⟨_, c', hf, h₂⟩ := bind_eq_ok.1 h₁
    obtain rfl := pure_eq_ok.1 h₂
    rcases (literal_bind_eq_ok (by decide)).1 hn with ⟨ds, rfl, hi⟩ | ⟨_, hm⟩
    · obtain ⟨hp, rfl⟩ := path_of_integer hi hf
      rw [List.append_assoc]
      exact ⟨n, hp, rfl⟩
    · obtain ⟨rfl, rfl⟩ := Prod.mk.inj (pure_eq_ok.1 hm)
      obtain ⟨rfl, hc⟩ := finish_eq_ok.1 hf
      obtain ⟨-, rfl⟩ := Prod.mk.inj hc
      rw [List.append_nil]
      exact ⟨none, .omitted, rfl⟩
  · rintro ⟨n, hn, rfl⟩
    refine bind_eq_ok.2 ⟨n, ⟨passed ++ cs, some []⟩, ?_,
      bind_eq_ok.2 ⟨(), _, finish_eq_ok.2 ⟨rfl, rfl⟩, rfl⟩⟩
    cases hn with
    | omitted =>
      rw [List.append_nil]
      exact (literal_bind_eq_ok (by decide)).2 (.inr ⟨by decide, rfl⟩)
    | slash =>
      refine (literal_bind_eq_ok (by decide)).2 (.inl ⟨[], rfl, ?_⟩)
      refine bind_eq_ok.2 ⟨none, _, integer_eq_ok.2 ?_, rfl⟩
      rw [List.take_nil, List.drop_nil, List.append_nil]
      rfl
    | @number ds b hne hr =>
      have hlen : ds.length ≠ 0 := mt List.length_eq_zero_iff.1 hne
      obtain ⟨v, hv⟩ : ∃ v : Int, v = b.toNat := ⟨_, rfl⟩
      have hb : toBusNumber? v = some b := toBusNumber?_eq_some_iff.2 hv
      refine (literal_bind_eq_ok (by decide)).2 (.inl ⟨ds, rfl, ?_⟩)
      refine bind_eq_ok.2
        ⟨some v, ⟨passed ++ '/' :: ds, some []⟩, integer_eq_ok.2 ?_, ?_⟩
      · rw [hr, ← hv, if_neg hlen, List.take_length, List.drop_length, List.append_assoc]
        rfl
      · simp only [hb]
        exact pure_eq_ok.2 rfl

end Scan

end BusAccess.Uri
