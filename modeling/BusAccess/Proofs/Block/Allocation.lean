import BusAccess.Proofs.Block.Memory
import BusAccess.Proofs.Block.Rounding

/-!
# What an allocation comes to

Whether a block can be laid out is decided from its sizes and the offset alone, before an allocator
is asked.  `refusal?` says what is refused and why, and it says so on natural numbers, where a sum
is the sum whatever its size; `ofSizes_eq` is that the words, of which each is looked at before it
is used, come to the same.  The order matters where there is more than one thing wrong.

The allocator is any one that does what allocators do (`Allocator.Sound`): what it grants is aligned
for pointers, ends before the addresses do, and is cleared.  Then the block is in the region as it
should be (`LaidOut`), and nothing about it had to be checked again (`allocation_laid_out`).
-/

set_option autoImplicit false

namespace BusAccess.Block

variable {size0 offset size1 publicSize payload total word : UInt64} {layout : Layout} {e : Error}

/-! ## What is refused -/

/-- The error with which a request is refused before an allocator is asked for anything. -/
def refusal? (size0 offset size1 : Nat) : Option Error :=
  let public' := roundUp size0 8
  let private' := roundUp size1 8
  if UInt64.size ≤ public' ∨ UInt64.size ≤ private' then some .noMemory
  else if 0 < private' ∧ (offset % 8 ≠ 0 ∨ public' < offset + 8) then some .invalidParam
  else if 0x7fffffffffffffff < 8 + public' + private' then some .noMemory
  else none

theorem alignUp?_wordSize_eq_some_iff :
    alignUp? size0 wordSize = some word ↔ word.toNat = roundUp size0.toNat 8 :=
  alignUp?_eq_some_iff (k := 3) rfl

theorem alignUp?_wordSize_eq_none_iff :
    alignUp? size0 wordSize = none ↔ UInt64.size ≤ roundUp size0.toNat 8 :=
  alignUp?_eq_none_iff (k := 3) rfl

/-- **There is room for an address** where the public region has eight bytes that are aligned. -/
theorem slotFits_iff : Layout.slotFits publicSize offset = true ↔
    offset.toNat % 8 = 0 ∧ offset.toNat + 8 ≤ publicSize.toNat := by
  have hmod : offset % wordSize = 0 ↔ offset.toNat % 8 = 0 := by
    rw [← UInt64.toNat_inj, UInt64.toNat_mod]
    rfl
  rw [Layout.slotFits]
  cases hlast : checkedAdd? offset wordSize with
  | none =>
    refine iff_of_false Bool.false_ne_true fun ⟨_, hle⟩ ↦ ?_
    have hover : UInt64.size ≤ offset.toNat + 8 := checkedAdd?_eq_none_iff.1 hlast
    exact absurd (hover.trans hle) (Nat.not_le.2 publicSize.toNat_lt)
  | some last =>
    have hsum : last.toNat = offset.toNat + 8 := checkedAdd?_eq_some_iff.1 hlast
    simp only [Bool.and_eq_true, decide_eq_true_eq, hmod, UInt64.le_iff_toNat_le, hsum]

theorem totalSize?_eq_some_iff : totalSize? payload = some total ↔
    total.toNat = 8 + payload.toNat ∧ 8 + payload.toNat ≤ maxTotal.toNat := by
  rw [totalSize?]
  cases hsum : checkedAdd? wordSize payload with
  | none =>
    refine iff_of_false nofun fun ⟨_, hle⟩ ↦ ?_
    have hover : UInt64.size ≤ 8 + payload.toNat := checkedAdd?_eq_none_iff.1 hsum
    exact absurd (hover.trans hle) (by decide)
  | some sum =>
    have hsum : sum.toNat = 8 + payload.toNat := checkedAdd?_eq_some_iff.1 hsum
    simp only [UInt64.le_iff_toNat_le, hsum]
    split
    case isTrue hle =>
      rw [Option.some.injEq, ← UInt64.toNat_inj, hsum]
      exact ⟨fun h ↦ ⟨h.symm, hle⟩, fun h ↦ h.1.symm⟩
    case isFalse hle => exact iff_of_false nofun fun h ↦ hle h.2

/-- A block can be asked for if it takes less than half of the addresses. -/
theorem bind_totalSize?_eq_some_iff {privateSize : UInt64} (h0 : 8 ∣ publicSize.toNat)
    (h1 : 8 ∣ privateSize.toNat) :
    (checkedAdd? publicSize privateSize).bind totalSize? = some total ↔
      total.toNat = 8 + publicSize.toNat + privateSize.toNat ∧
        8 + publicSize.toNat + privateSize.toNat ≤ 0x7fffffffffffffff := by
  have hmax : maxTotal.toNat = 0x7ffffffffffffff8 := rfl
  cases hsum : checkedAdd? publicSize privateSize with
  | none =>
    have hover := checkedAdd?_eq_none_iff.1 hsum
    simp only [UInt64.size] at hover
    exact iff_of_false nofun fun h ↦ by omega
  | some payload =>
    have hsum := checkedAdd?_eq_some_iff.1 hsum
    -- Multiples of eight do not come between the largest total and half of the addresses.
    rw [Option.bind_some, totalSize?_eq_some_iff, hsum, hmax, ← Nat.add_assoc]
    omega

theorem bind_totalSize?_eq_none_iff {privateSize : UInt64} (h0 : 8 ∣ publicSize.toNat)
    (h1 : 8 ∣ privateSize.toNat) :
    (checkedAdd? publicSize privateSize).bind totalSize? = none ↔
      0x7fffffffffffffff < 8 + publicSize.toNat + privateSize.toNat := by
  cases htotal : (checkedAdd? publicSize privateSize).bind totalSize? with
  | some total =>
    have hle := ((bind_totalSize?_eq_some_iff h0 h1).1 htotal).2
    exact iff_of_false nofun (Nat.not_lt.2 hle)
  | none =>
    refine iff_of_true rfl (Nat.lt_of_not_le fun hle ↦ ?_)
    have hword : 8 + publicSize.toNat + privateSize.toNat < UInt64.size := hle.trans_lt (by decide)
    have hsome := (bind_totalSize?_eq_some_iff h0 h1).2 ⟨UInt64.toNat_ofNat_of_lt' hword, hle⟩
    exact absurd (htotal.symm.trans hsome) nofun

/-- **The layout of a block** is refused for what is wrong with its sizes as numbers, or it has
these numbers. -/
theorem ofSizes_eq (size0 offset size1 : UInt64) :
    match refusal? size0.toNat offset.toNat size1.toNat with
    | some e => Layout.ofSizes size0 offset size1 = .error e
    | none => ∃ layout total, Layout.ofSizes size0 offset size1 = .ok (layout, total) ∧
      layout.offset = offset ∧ layout.publicSize.toNat = roundUp size0.toNat 8 ∧
      layout.privateSize.toNat = roundUp size1.toNat 8 ∧
      total.toNat = 8 + roundUp size0.toNat 8 + roundUp size1.toNat 8 := by
  rw [Layout.ofSizes, refusal?]
  cases h0 : alignUp? size0 wordSize with
  | none =>
    rw [if_pos (.inl (alignUp?_wordSize_eq_none_iff.1 h0))]
  | some publicSize =>
    cases h1 : alignUp? size1 wordSize with
    | none =>
      rw [if_pos (.inr (alignUp?_wordSize_eq_none_iff.1 h1))]
    | some privateSize =>
      have hpublic := alignUp?_wordSize_eq_some_iff.1 h0
      have hprivate := alignUp?_wordSize_eq_some_iff.1 h1
      rw [← hpublic, ← hprivate]
      have hwords : ¬ (UInt64.size ≤ publicSize.toNat ∨ UInt64.size ≤ privateSize.toNat) :=
        not_or.2 ⟨Nat.not_le.2 publicSize.toNat_lt, Nat.not_le.2 privateSize.toNat_lt⟩
      have hslot : (0 < privateSize ∧ Layout.slotFits publicSize offset = false) ↔
          0 < privateSize.toNat ∧
            (offset.toNat % 8 ≠ 0 ∨ publicSize.toNat < offset.toNat + 8) := by
        rw [UInt64.lt_iff_toNat_lt, ← Bool.not_eq_true, slotFits_iff, not_and_or, Nat.not_le]
        rfl
      have hdvd0 : 8 ∣ publicSize.toNat := hpublic ▸ dvd_roundUp
      have hdvd1 : 8 ∣ privateSize.toNat := hprivate ▸ dvd_roundUp
      simp only [if_neg hwords, hslot]
      by_cases hbad : 0 < privateSize.toNat ∧
          (offset.toNat % 8 ≠ 0 ∨ publicSize.toNat < offset.toNat + 8)
      · simp only [if_pos hbad]
      · simp only [if_neg hbad]
        cases htotal : (checkedAdd? publicSize privateSize).bind totalSize? with
        | none =>
          have hlarge := (bind_totalSize?_eq_none_iff hdvd0 hdvd1).1 htotal
          simp only [if_pos hlarge]
        | some total =>
          obtain ⟨hsum, hle⟩ := (bind_totalSize?_eq_some_iff hdvd0 hdvd1).1 htotal
          simp only [if_neg (Nat.not_lt.2 hle)]
          exact ⟨_, _, rfl, rfl, rfl, rfl, hsum⟩

/-- What is not refused has room for the address of the private region, and for everything. -/
theorem of_refusal?_eq_none {size0 offset size1 : Nat} (h : refusal? size0 offset size1 = none) :
    (0 < roundUp size1 8 → offset % 8 = 0 ∧ offset + 8 ≤ roundUp size0 8) ∧
      8 + roundUp size0 8 + roundUp size1 8 ≤ 0x7fffffffffffffff := by
  rw [refusal?] at h
  split at h
  · exact absurd h nofun
  · split at h
    · exact absurd h nofun
    case isFalse hslot =>
      split at h
      · exact absurd h nofun
      case isFalse htotal => exact ⟨fun hprivate ↦ by omega, Nat.le_of_not_lt htotal⟩

/-! ## What is written -/

section Inscribed

variable {m : Memory} {base a : Nat}

/-- The address of the private region is written behind the header. -/
theorem inscribe_of_not_mem (hheader : a < base ∨ base + 8 ≤ a)
    (hslot : 0 < layout.privateSize →
      a < base + 8 + layout.offset.toNat ∨ base + 8 + layout.offset.toNat + 8 ≤ a) :
    Heap.inscribe m base layout a = m a := by
  rw [Heap.inscribe, Heap.headerSize]
  split
  case isTrue hprivate =>
    rw [Memory.writeWord_of_not_mem (hslot hprivate), Memory.writeWord_of_not_mem hheader]
  case isFalse => exact Memory.writeWord_of_not_mem hheader

theorem readWord_inscribe : (Heap.inscribe m base layout).readWord base = layout.payload := by
  rw [Heap.inscribe, Heap.headerSize]
  split
  case isTrue =>
    rw [Memory.readWord_writeWord_of_apart (.inr (Nat.le_add_right _ _)),
      Memory.readWord_writeWord]
  case isFalse => exact Memory.readWord_writeWord

theorem readWord_inscribe_slot (h : 0 < layout.privateSize) :
    (Heap.inscribe m base layout).readWord (base + 8 + layout.offset.toNat) =
      UInt64.ofNat (base + 8 + layout.publicSize.toNat) := by
  rw [Heap.inscribe, if_pos h]
  exact Memory.readWord_writeWord

end Inscribed

/-! ## Allocators -/

/-- What is relied on of an allocator: a region that it grants is aligned for pointers, has no
address that is not a word, and is cleared. -/
structure Allocator.Sound (A : Allocator) : Prop where
  /-- Pointers can be kept at the start of the region. -/
  aligned : ∀ {h h' : Heap} {size base : Nat}, A.grant h size = some (base, h') → base % 8 = 0
  /-- Every address of the region is a word. -/
  bounded : ∀ {h h' : Heap} {size base : Nat}, A.grant h size = some (base, h') →
    base + size < UInt64.size
  /-- The region holds nothing but zeros. -/
  cleared : ∀ {h h' : Heap} {size base : Nat}, A.grant h size = some (base, h') →
    ∀ a, base ≤ a → a < base + size → h'.memory a = 0

/-- What a heap grants starts where the next region was to start, and is cleared. -/
theorem of_grant? {h h' : Heap} {size base : Nat} (hg : h.grant? size = some (base, h')) :
    h.next + size < UInt64.size ∧ base = h.next ∧ h'.memory = h.memory.fill h.next size 0 ∧
      h'.live = ⟨h.next, size⟩ :: h.live ∧ h.next + size ≤ h'.next := by
  rw [Heap.grant?] at hg
  split at hg
  case isTrue hsize =>
    obtain ⟨rfl, rfl⟩ := Prod.mk.inj (Option.some.inj hg)
    exact ⟨hsize.2, rfl, rfl, rfl, by simp only; omega⟩
  case isFalse => exact absurd hg nofun

/-- The regions of a heap are granted by a sound allocator. -/
theorem sound_native : Allocator.native.Sound := by
  constructor
  · intro h h' size base hg
    obtain ⟨-, rfl, -⟩ := of_grant? hg
    have := h.aligned
    omega
  · intro h h' size base hg
    obtain ⟨hlt, rfl, -⟩ := of_grant? hg
    exact hlt
  · intro h h' size base hg a hle hlt
    obtain ⟨-, rfl, hmemory, -⟩ := of_grant? hg
    rw [hmemory]
    exact Memory.fill_of_mem ⟨hle, hlt⟩

/-! ## Allocation -/

/-- Whether a block is laid out in a region as it should be, for sizes that are rounded already. -/
structure LaidOut (base public' private' place : Nat) (m : Memory) (block : Placed) : Prop where
  /-- The public region is behind the header. -/
  pointer : block.pointer = base + 8
  /-- Pointers can be kept at its start. -/
  aligned : block.pointer % 8 = 0
  /-- No address of the block is cut off. -/
  bounded : block.pointer + public' + private' < UInt64.size
  /-- The offset is as it was asked for. -/
  offset : block.layout.offset.toNat = place
  /-- The public region is as large as it was asked for. -/
  publicSize : block.layout.publicSize.toNat = public'
  /-- So is the private region. -/
  privateSize : block.layout.privateSize.toNat = private'
  /-- The payload is both regions. -/
  payload : block.layout.payload.toNat = public' + private'
  /-- The header holds the size of the payload. -/
  header : (m.readWord base).toNat = public' + private'
  /-- The address of the private region has a place in the public one. -/
  slot : 0 < private' → (block.pointer + place) % 8 = 0 ∧ place + 8 ≤ public'
  /-- The private region starts where the public one ends. -/
  address : 0 < private' → (m.readWord (block.pointer + place)).toNat = block.pointer + public'
  /-- Pointers can be kept at the start of the private region. -/
  privateAligned : (block.pointer + public') % 8 = 0
  /-- The regions end where the grant does. -/
  inside : block.pointer + public' + private' = base + (8 + public' + private')
  /-- Everything behind the header is cleared, but for the address of the private region. -/
  cleared : ∀ a, block.pointer ≤ a → a < block.pointer + public' + private' →
    (0 < private' → a < block.pointer + place ∨ block.pointer + place + 8 ≤ a) → m a = 0

/-- **A block is laid out** by what is written into a cleared region. -/
theorem laidOut_inscribe {m : Memory} {base public' private' place : Nat} (hbase : base % 8 = 0)
    (hbounded : base + (8 + public' + private') < UInt64.size)
    (hcleared : ∀ a, base ≤ a → a < base + (8 + public' + private') → m a = 0)
    (hoffset : layout.offset.toNat = place) (hpublic : layout.publicSize.toNat = public')
    (hprivate : layout.privateSize.toNat = private') (hpublic8 : public' % 8 = 0)
    (hslot : 0 < private' → place % 8 = 0 ∧ place + 8 ≤ public') :
    LaidOut base public' private' place (Heap.inscribe m base layout) ⟨layout, base + 8⟩ := by
  have hpayload : layout.payload.toNat = public' + private' := by
    rw [Layout.payload, UInt64.toNat_add, hpublic, hprivate]
    exact Nat.mod_eq_of_lt (by simp only [UInt64.size] at hbounded; omega)
  have hsome : 0 < layout.privateSize ↔ 0 < private' := by
    rw [UInt64.lt_iff_toNat_lt, hprivate]
    rfl
  constructor
  case pointer => rfl
  case aligned => simp only; omega
  case bounded => simp only; omega
  case offset => exact hoffset
  case publicSize => exact hpublic
  case privateSize => exact hprivate
  case payload => exact hpayload
  case header => rw [readWord_inscribe, hpayload]
  case slot =>
    intro hpos
    obtain ⟨hplace, hroom⟩ := hslot hpos
    exact ⟨by simp only; omega, hroom⟩
  case address =>
    intro hpos
    have hword : base + 8 + public' < UInt64.size := by omega
    simp only [← hoffset]
    rw [readWord_inscribe_slot (hsome.2 hpos), hpublic, UInt64.toNat_ofNat_of_lt' hword]
  case privateAligned => simp only; omega
  case inside => simp only; omega
  case cleared =>
    intro a hle hlt hnot
    simp only at hle hlt hnot
    rw [inscribe_of_not_mem (.inr hle) fun hpos ↦ hoffset ▸ hnot (hsome.1 hpos)]
    exact hcleared a (by omega) (by omega)

section Allocating

variable {S : Interface} {A : Allocator} {h h₁ : Heap} {base : Nat}

theorem allocateFrom_of_error (hl : Layout.ofSizes size0 offset size1 = .error e) :
    (Heap.allocateFrom A size0 offset size1 h : Program S _) = .done (.error e, h) := by
  rw [Heap.allocateFrom, hl]
  rfl

theorem allocateFrom_of_none (hl : Layout.ofSizes size0 offset size1 = .ok (layout, total))
    (hg : A.grant h total.toNat = none) :
    (Heap.allocateFrom A size0 offset size1 h : Program S _) =
      .report (.error "object allocation failed") (.done (.error .noMemory, h)) := by
  simp only [Heap.allocateFrom, hl, Action.ofExcept, Action.bind_run, Program.bind, Action.get_run,
    hg]
  rfl

theorem allocateFrom_of_some (hl : Layout.ofSizes size0 offset size1 = .ok (layout, total))
    (hg : A.grant h total.toNat = some (base, h₁)) :
    (Heap.allocateFrom A size0 offset size1 h : Program S _) =
      .done (.ok ⟨layout, base + 8⟩,
        { h₁ with memory := Heap.inscribe h₁.memory base layout }) := by
  simp only [Heap.allocateFrom, hl, Action.ofExcept, Action.bind_run, Program.bind, Action.get_run,
    hg]
  rfl

/-- **An allocation is refused for what is wrong with it, or it lays out a block.**  Sums and
rounded sizes are those of numbers here, for all sizes and offsets that are words, so what looks
small only because it is cut off is not taken for small.  What is refused leaves the allocator
alone, and whatever an allocator grants that is sound becomes the block that was asked for. -/
theorem allocation_laid_out (hA : A.Sound) (size0 offset size1 : UInt64)
    (h : Heap) :
    let public' := roundUp size0.toNat 8
    let private' := roundUp size1.toNat 8
    let result : Program S (Except Error Placed × Heap) :=
      Heap.allocateFrom A size0 offset size1 h
    (∀ e, refusal? size0.toNat offset.toNat size1.toNat = some e → result = .done (.error e, h)) ∧
      (refusal? size0.toNat offset.toNat size1.toNat = none →
        (A.grant h (8 + public' + private') = none → result =
          .report (.error "object allocation failed") (.done (.error .noMemory, h))) ∧
        ∀ base h₁, A.grant h (8 + public' + private') = some (base, h₁) → ∃ block m,
          result = .done (.ok block, { h₁ with memory := m }) ∧
            LaidOut base public' private' offset.toNat m block) := by
  intro public' private' result
  have hlayout := ofSizes_eq size0 offset size1
  refine ⟨fun e he ↦ ?_, fun hnone ↦ ?_⟩
  · rw [he] at hlayout
    exact allocateFrom_of_error hlayout
  · rw [hnone] at hlayout
    obtain ⟨layout, total, hl, hoffset, hpublic, hprivate, htotal⟩ := hlayout
    obtain ⟨hslot, -⟩ := of_refusal?_eq_none hnone
    refine ⟨fun hg ↦ ?_, fun base h₁ hg ↦ ?_⟩
    · rw [← htotal] at hg
      exact allocateFrom_of_none hl hg
    · have hlaid := laidOut_inscribe (hA.aligned hg) (hA.bounded hg) (hA.cleared hg)
        (congrArg UInt64.toNat hoffset) hpublic hprivate (Nat.mod_eq_zero_of_dvd dvd_roundUp) hslot
      rw [← htotal] at hg
      exact ⟨_, _, allocateFrom_of_some hl hg, hlaid⟩

end Allocating

/-- Odd sizes are rounded, and a slot that would reach beyond the last address is none. -/
theorem allocation_laid_out_odd :
    (∃ block h, (Heap.allocate 13 8 3 .empty : Program Program.silence _) = .done (.ok block, h) ∧
      LaidOut 0x7f3a5c000010 16 8 8 h.memory block) ∧
    (Heap.allocate 16 0xfffffffffffffff8 8 .empty : Program Program.silence _) =
      .done (.error .invalidParam, .empty) := by
  constructor
  · obtain ⟨-, hgranted⟩ := allocation_laid_out (S := Program.silence) sound_native 13 8 3 .empty
    obtain ⟨-, hsome⟩ := hgranted (by decide)
    obtain ⟨block, m, hresult, hlaid⟩ := hsome 0x7f3a5c000010 _ rfl
    exact ⟨block, _, hresult, hlaid⟩
  · exact (allocation_laid_out sound_native 16 0xfffffffffffffff8 8 .empty).1 .invalidParam
      (by decide)

end BusAccess.Block
