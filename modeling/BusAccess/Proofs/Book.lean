import BusAccess.Proofs.Bus.Invariant
import Mathlib.Data.List.Nodup

/-!
# Books on what is handed out and taken back

A bus has things from its surroundings: descriptors of the kernel, pins that are claimed.  What
becomes of such a thing can be read off a run.  A `Book` says which step of a run hands a thing out
and which one takes it back, and `Book.entries` are the entries of one thing in the order in which
they are made.

The backend has its own idea of what it has, a table.  The two are `Balanced` if the entries of every
thing alternate, beginning with `out`, and the last one is `out` just if the thing is in the table:
then nothing is lost, and nothing is given back that is not there.  A third number is kept by the bus,
which counts what is open without looking at the table.

What a single call may do to keep this up is one of four things (`Book.Effect`): nothing, handing out
one thing that goes into the table, handing out one and taking it back at once, and taking back one
that leaves the table.  A backend all of whose calls do one of these, and which gives back in the end
what is still in the table, keeps a book (`Book.Kept`); table, book and count then agree through all
uses of a bus (`Kept.agrees`), and in the end everything is given back (`Agrees.after_drop`).
-/

set_option autoImplicit false

namespace BusAccess

open Log (Event)
open Program (Trace Step calls)

/-! ## Lists that alternate -/

section Alternates

variable {α : Type} {a b : α} {w : List α} {p q : Prop} [Decidable p] [Decidable q]

/-- So many times `a` and then `b`. -/
def rounds (a b : α) (n : Nat) : List α := (List.replicate n [a, b]).flatten

theorem rounds_append (n : Nat) : rounds a b n ++ [a, b] = rounds a b (n + 1) := by
  rw [rounds, rounds, List.replicate_succ', List.flatten_concat]

/-- Whether a list is `a`, `b`, `a`, `b` and so on, and ends with `a` just if `p` holds. -/
def Alternates (a b : α) (w : List α) (p : Prop) [Decidable p] : Prop :=
  ∃ n, w = rounds a b n ++ if p then [a] else []

theorem Alternates.nil (hp : ¬ p) : Alternates a b [] p := ⟨0, by rw [if_neg hp]; rfl⟩

theorem Alternates.congr (h : Alternates a b w p) (hpq : q ↔ p) : Alternates a b w q := by
  obtain ⟨n, rfl⟩ := h
  refine ⟨n, ?_⟩
  simp only [hpq]

theorem Alternates.eq_rounds (h : Alternates a b w p) (hp : ¬ p) : ∃ n, w = rounds a b n := by
  obtain ⟨n, rfl⟩ := h
  exact ⟨n, by rw [if_neg hp, List.append_nil]⟩

theorem Alternates.concat_first (h : Alternates a b w p) (hp : ¬ p) (hq : q) :
    Alternates a b (w ++ [a]) q := by
  obtain ⟨n, rfl⟩ := h
  exact ⟨n, by rw [if_neg hp, if_pos hq, List.append_nil]⟩

theorem Alternates.concat_second (h : Alternates a b w p) (hp : p) (hq : ¬ q) :
    Alternates a b (w ++ [b]) q := by
  obtain ⟨n, rfl⟩ := h
  refine ⟨n + 1, ?_⟩
  rw [if_pos hp, if_neg hq, List.append_nil, List.append_assoc, ← rounds_append]
  rfl

/-- What comes last tells whether a round is left open. -/
theorem Alternates.getLast?_eq_iff (h : Alternates a b w p) (hab : a ≠ b) :
    w.getLast? = some a ↔ p := by
  obtain ⟨n, rfl⟩ := h
  by_cases hp : p
  · rw [if_pos hp, List.getLast?_concat]
    exact iff_of_true rfl hp
  · rw [if_neg hp, List.append_nil]
    refine iff_of_false ?_ hp
    cases n with
    | zero => exact nofun
    | succ n =>
      rw [← rounds_append, List.getLast?_append]
      exact fun h ↦ hab (Option.some.inj h).symm

end Alternates

/-! ## Books -/

/-- How to read off a run what is handed out and what is taken back. -/
structure Book (S : Interface) (κ α : Type) where
  /-- What a step is to a thing. -/
  entry? : κ → Step S → Option α
  /-- The entry of a thing that is handed out. -/
  out : α
  /-- The entry of a thing that is taken back. -/
  back : α
  /-- These two are told apart. -/
  out_ne_back : out ≠ back
  /-- Events are no entries. -/
  entry?_reported : ∀ k e, entry? k (.reported e) = none

namespace Book

variable {S : Interface} {κ α : Type} (B : Book S κ α) {k : κ} {t u past : Trace S}

/-- The entries of a thing in a run. -/
def entries (k : κ) (t : Trace S) : List α := t.filterMap (B.entry? k)

@[simp] theorem entries_nil : B.entries k [] = [] := rfl

@[simp] theorem entries_append : B.entries k (t ++ u) = B.entries k t ++ B.entries k u :=
  List.filterMap_append

theorem entries_cons {x : Step S} :
    B.entries k (x :: t) = (B.entry? k x).toList ++ B.entries k t := by
  rw [entries, List.filterMap_cons]
  cases B.entry? k x <;> rfl

@[simp] theorem entries_reported {e : Event} : B.entries k (.reported e :: t) = B.entries k t := by
  rw [entries_cons, B.entry?_reported]
  rfl

theorem entries_calls : B.entries k (calls t) = B.entries k t := by
  induction t with
  | nil => rfl
  | cons x t ih =>
    cases x with
    | reported e => rw [Program.calls_reported, entries_reported, ih]
    | asked q r => rw [Program.calls_asked, entries_cons, entries_cons, ih]

theorem entries_of_calls_eq_nil (ht : calls t = []) : B.entries k t = [] := by
  rw [← entries_calls, ht, entries_nil]

/-- Whether a thing is handed out and not taken back. -/
def IsOut (k : κ) (t : Trace S) : Prop := (B.entries k t).getLast? = some B.out

instance [DecidableEq α] (k : κ) (t : Trace S) : Decidable (B.IsOut k t) :=
  inferInstanceAs (Decidable (_ = _))

variable [DecidableEq κ] {keys keys' : List κ}

/-- A table and the entries so far agree. -/
structure Balanced (keys : List κ) (past : Trace S) : Prop where
  /-- Nothing is in the table twice. -/
  nodup : keys.Nodup
  /-- Each thing was handed out and taken back by turns, and is out if it is in the table. -/
  alternates : ∀ k, Alternates B.out B.back (B.entries k past) (k ∈ keys)

theorem balanced_nil : B.Balanced [] [] := ⟨.nil, fun _ ↦ .nil List.not_mem_nil⟩

/-- What a call may come to: from a table, it goes through a run, changes the count of what is open
and leaves another table. -/
inductive Effect (keys : List κ) (t : Trace S) : (Nat → Nat) → List κ → Prop
  | idle (h : ∀ j, B.entries j t = []) : Effect keys t id keys
  | opened {k : κ} {keys' : List κ} (hk : k ∉ keys) (hkeys : keys'.Perm (k :: keys))
      (h : ∀ j, B.entries j t = if k = j then [B.out] else []) : Effect keys t (· + 1) keys'
  | undone {k : κ} (hk : k ∉ keys)
      (h : ∀ j, B.entries j t = if k = j then [B.out, B.back] else []) : Effect keys t id keys
  | closed {k : κ} {keys' : List κ} (hkeys : keys.Perm (k :: keys'))
      (h : ∀ j, B.entries j t = if k = j then [B.back] else []) : Effect keys t (· - 1) keys'

variable {B}

/-- **Every effect changes the count as it changes the table.** -/
theorem Effect.count {f : Nat → Nat} (he : B.Effect keys t f keys') :
    f keys.length = keys'.length := by
  cases he with
  | idle => rfl
  | opened _ hkeys => rw [hkeys.length_eq, List.length_cons]
  | undone => rfl
  | closed hkeys =>
    rw [hkeys.length_eq, List.length_cons]
    exact Nat.add_sub_cancel _ 1

/-- An effect that leaves the count as it is leaves nothing behind. -/
theorem Effect.of_eq_id {f : Nat → Nat} (he : B.Effect keys t f keys') (hf : f = id) :
    keys' = keys ∧ ∀ j, B.entries j t = [] ∨ B.entries j t = [B.out, B.back] := by
  cases he with
  | idle h => exact ⟨rfl, fun j ↦ .inl (h j)⟩
  | opened => exact absurd (congrFun hf 0) (Nat.succ_ne_zero 0)
  | @undone k _ h =>
    refine ⟨rfl, fun j ↦ ?_⟩
    rw [h j]
    split
    · exact .inr rfl
    · exact .inl rfl
  | closed => exact absurd (congrFun hf 1) Nat.zero_ne_one

namespace Balanced

/-- **What is out is in the table.** -/
theorem isOut_iff (hb : B.Balanced keys past) : B.IsOut k past ↔ k ∈ keys :=
  (hb.alternates k).getLast?_eq_iff B.out_ne_back

/-- A run without an entry of a thing changes nothing about it. -/
theorem alternates_of_eq_nil (hb : B.Balanced keys past) (ht : B.entries k t = [])
    (hk : k ∈ keys' ↔ k ∈ keys) :
    Alternates B.out B.back (B.entries k (past ++ t)) (k ∈ keys') := by
  rw [entries_append, ht, List.append_nil]
  exact (hb.alternates k).congr hk

/-- **Every effect keeps table and entries in agreement.** -/
theorem after_effect (hb : B.Balanced keys past) {f : Nat → Nat}
    (he : B.Effect keys t f keys') : B.Balanced keys' (past ++ t) := by
  cases he with
  | idle h => exact ⟨hb.nodup, fun j ↦ hb.alternates_of_eq_nil (h j) Iff.rfl⟩
  | @opened k _ hk hkeys h =>
    refine ⟨hkeys.nodup_iff.2 (List.nodup_cons.2 ⟨hk, hb.nodup⟩), fun j ↦ ?_⟩
    have hj := h j
    by_cases hkj : k = j
    · subst hkj
      rw [if_pos rfl] at hj
      rw [entries_append, hj]
      exact (hb.alternates k).concat_first hk (hkeys.mem_iff.2 List.mem_cons_self)
    · rw [if_neg hkj] at hj
      refine hb.alternates_of_eq_nil hj ?_
      rw [hkeys.mem_iff, List.mem_cons, or_iff_right (Ne.symm hkj)]
  | @undone k hk h =>
    refine ⟨hb.nodup, fun j ↦ ?_⟩
    have hj := h j
    by_cases hkj : k = j
    · subst hkj
      rw [if_pos rfl] at hj
      have hout : Alternates B.out B.back (B.entries k past ++ [B.out]) True :=
        (hb.alternates k).concat_first hk trivial
      have hback := hout.concat_second (q := k ∈ keys) trivial hk
      rwa [List.append_assoc, List.singleton_append, ← hj, ← entries_append] at hback
    · rw [if_neg hkj] at hj
      exact hb.alternates_of_eq_nil hj Iff.rfl
  | @closed k _ hkeys h =>
    obtain ⟨hk, hnodup⟩ := List.nodup_cons.1 (hkeys.nodup_iff.1 hb.nodup)
    refine ⟨hnodup, fun j ↦ ?_⟩
    have hj := h j
    by_cases hkj : k = j
    · subst hkj
      rw [if_pos rfl] at hj
      rw [entries_append, hj]
      exact (hb.alternates k).concat_second (hkeys.mem_iff.2 List.mem_cons_self) hk
    · rw [if_neg hkj] at hj
      refine hb.alternates_of_eq_nil hj ?_
      rw [hkeys.mem_iff, List.mem_cons, or_iff_right (Ne.symm hkj)]

/-- Giving back what is in the table completes all rounds. -/
theorem after_clearing (hb : B.Balanced keys past)
    (ht : ∀ j, B.entries j t = if j ∈ keys then [B.back] else []) :
    B.Balanced [] (past ++ t) := by
  refine ⟨.nil, fun j ↦ ?_⟩
  have hj := ht j
  by_cases hm : j ∈ keys
  · rw [if_pos hm] at hj
    rw [entries_append, hj]
    exact (hb.alternates j).concat_second hm List.not_mem_nil
  · rw [if_neg hm] at hj
    exact hb.alternates_of_eq_nil hj (iff_of_false List.not_mem_nil hm)

/-- Something that is just handed out was not in the table if it was not out. -/
theorem not_mem_of_not_isOut (hb : B.Balanced keys past) (hk : ¬ B.IsOut k past) : k ∉ keys :=
  fun hm ↦ hk (hb.isOut_iff.2 hm)

end Balanced

end Book

/-! ## Backends that keep a book -/

namespace Bus

variable {κ σ : Type} {keys : σ → List κ} {b : Bus σ} {s : σ}

/-- What a bus has open, by the table of its backend. -/
def held (keys : σ → List κ) (b : Bus σ) : List κ :=
  match b.core with
  | some s => keys s
  | none => []

theorem held_of_core (hs : b.core = some s) : b.held keys = keys s := by
  rw [held, hs]

theorem held_of_gone (hs : b.core = none) : b.held keys = [] := by
  rw [held, hs]

end Bus

section Kept

variable {S : Interface} {κ α σ : Type} [DecidableEq κ] {K : Operations} {B : Book S κ α}
  {t : Table K S σ} {keys : σ → List κ} {Fine : Trace S → Prop} {Sound : σ → Prop}

namespace Book

/-- A backend whose calls keep its table in agreement with a book, in runs that are fine and from
states that are sound, and which gives back what is in the table when it disconnects. -/
structure Kept (B : Book S κ α) (t : Table K S σ) (keys : σ → List κ) (Fine : Trace S → Prop)
    (Sound : σ → Prop) : Prop where
  /-- What comes before something fine is fine. -/
  left : ∀ {past trace : Trace S}, Fine (past ++ trace) → Fine past
  /-- A call leaves a sound state. -/
  sound : ∀ {s : σ} {c : K.Call} {trace : Trace S} {r : Except Error (K.Answer c)} {s' : σ},
    Sound s → (t.call c s).Runs trace (r, s') → Sound s'
  /-- A call has the entries that its effect on the table and its count ask for. -/
  call : ∀ {past : Trace S} {s : σ} {c : K.Call} {trace : Trace S} {r : Except Error (K.Answer c)}
    {s' : σ}, Fine (past ++ trace) → Sound s → B.Balanced (keys s) past →
    (t.call c s).Runs trace (r, s') → B.Effect (keys s) trace ((K.role c).count r) (keys s')
  /-- Releasing takes back what is in the table, each thing once. -/
  release : ∀ {s : σ} {trace : Trace S} {r : Except Error Unit} {s' : σ}, Sound s →
    (keys s).Nodup → (t.release s).Runs trace (r, s') →
    ∀ j, B.entries j trace = if j ∈ keys s then [B.back] else []

/-- Table, book and count of a bus agree. -/
structure Agrees (B : Book S κ α) (keys : σ → List κ) (Sound : σ → Prop) (past : Trace S)
    (b : Bus σ) : Prop where
  /-- The state is sound. -/
  sound : ∀ s, b.core = some s → Sound s
  /-- The table agrees with the book. -/
  balanced : B.Balanced (b.held keys) past
  /-- The count is the size of the table. -/
  count : b.openDevices = (b.held keys).length

theorem agrees_new {backend : String} {core : σ} (hs : Sound core) (hk : keys core = []) :
    B.Agrees keys Sound [] (.new backend core) where
  sound := by
    rintro s ⟨⟩
    exact hs
  balanced := by
    rw [Bus.held_of_core rfl, hk]
    exact B.balanced_nil
  count := by
    rw [Bus.held_of_core rfl, hk]
    rfl

namespace Kept

/-- Every call and the release of a backend that keeps a book keep up that all agree. -/
theorem preserved (hk : B.Kept t keys Fine Sound) :
    Bus.Preserved t (fun past b ↦ Fine past → B.Agrees keys Sound past b) where
  call {past b s c trace r s'} hb hs h hf := by
    obtain ⟨hsound, hbal, hcount⟩ := hb (hk.left hf)
    rw [Bus.held_of_core hs] at hbal hcount
    have he := hk.call hf (hsound s hs) hbal h
    refine ⟨?_, hbal.after_effect he, ?_⟩
    · rintro _ ⟨⟩
      exact hk.sound (hsound s hs) h
    · show (K.role c).count r b.openDevices = (keys s').length
      rw [hcount, he.count]
  release {past b s trace r s'} hb hs h hf := by
    obtain ⟨hsound, hbal, _⟩ := hb (hk.left hf)
    rw [Bus.held_of_core hs] at hbal
    refine ⟨nofun, hbal.after_clearing fun j ↦ ?_, rfl⟩
    rw [entries_append, entries_reported, entries_nil, List.append_nil]
    exact hk.release (hsound s hs) hbal.nodup h j

/-- **Table, book and count agree** after any uses of a new bus. -/
theorem agrees {M : Methods} {t : Table M.operations S σ} (hk : B.Kept t keys Fine Sound)
    {us : List (Use M)} {trace : Trace S} {b₀ b : Bus σ} (hb : B.Agrees keys Sound [] b₀)
    (h : (Bus.uses t us b₀).Runs trace b) (hf : Fine trace) : B.Agrees keys Sound trace b :=
  hk.preserved.of_uses (P := fun past b ↦ Fine past → B.Agrees keys Sound past b) (fun _ ↦ hb) h hf

end Kept

/-- The calls of the backend have their effects on what the bus has open. -/
theorem Agrees.effect_of_call {past trace : Trace S} {b b' : Bus σ}
    (hb : B.Agrees keys Sound past b) (hk : B.Kept t keys Fine Sound) {c : K.Call}
    {r : Except Error (K.Answer c)} (h : (Bus.call t c b).Runs trace (r, b'))
    (hf : Fine (past ++ trace)) :
    B.Effect (b.held keys) trace ((K.role c).count r) (b'.held keys) := by
  cases hs : b.core with
  | none =>
    obtain ⟨rfl, rfl, rfl⟩ := Bus.runs_call_gone hs h
    have hid : (K.role c).count (.error .invalidObject : Except Error (K.Answer c)) = id := by
      cases K.role c <;> rfl
    rw [hid]
    exact .idle fun _ ↦ rfl
  | some s =>
    have hbal := hb.balanced
    obtain ⟨s', h₁, rfl⟩ := Bus.runs_call hs h
    rw [Bus.held_of_core hs] at hbal ⊢
    exact hk.call hf (hb.sound s hs) hbal h₁

/-- **Everything is given back** when a bus is given up. -/
theorem Agrees.after_drop {past trace : Trace S} {b : Bus σ} (hb : B.Agrees keys Sound past b)
    (hk : B.Kept t keys Fine Sound) (h : (Bus.drop t b).Runs trace ()) :
    B.Balanced [] (past ++ trace) := by
  cases hs : b.core with
  | none =>
    have hbal := hb.balanced
    rw [Bus.held_of_gone hs] at hbal
    rwa [Bus.runs_drop_gone hs h, List.append_nil]
  | some s =>
    have hbal := hb.balanced
    rw [Bus.held_of_core hs] at hbal
    obtain ⟨u, r, s', v, hu, rfl, hv⟩ := Bus.runs_drop hs h
    refine hbal.after_clearing fun j ↦ ?_
    rw [entries_append, entries_of_calls_eq_nil B hv, List.append_nil]
    exact hk.release (hb.sound s hs) hbal.nodup hu j

end Book

end Kept

end BusAccess
