import Mathlib.Data.List.Pairwise
import Mathlib.Logic.Relation
import BusAccess.Proofs.Block.Allocation
import BusAccess.Proofs.Trace

/-!
# Blocks in use

Nobody keeps a list of blocks.  What is known of a block when it is released is its pointer, and the
rest is read back: the size of the payload from the header, and from this the size of the region that
is given back.  The header lies in the memory that everybody writes to, and if the size in it were
not one that a block can have, the region would silently not be given back at all.

So everything depends on headers staying what they were.  A `Holding` is a heap together with the
blocks in use, each with the request that it was allocated for, and `Holding.Step` is what can be done
with them: allocating, writing inside a payload, scrubbing and releasing, in any order and for any
blocks.  What each of these keeps up is `Holding.Orderly`.  Its two parts that carry the argument are
that the regions of the blocks are apart, and that they are exactly those that are handed out; then
whatever is written inside one payload misses every header (`header_of_payload`).

The allocator may be any one that hands out what nobody has (`Allocator.Exclusive`).  It may well hand
out what was given back before, at the same addresses, and it may read what is left in there as soon as
it has it: releasing hands over a payload that is cleared already (`Confined.released`).
-/

set_option autoImplicit false

namespace BusAccess.Block

/-! ## Regions -/

namespace Region

variable {r s : Region} {a : Nat}

/-- Whether an address lies in a region. -/
def Holds (r : Region) (a : Nat) : Prop := r.start ≤ a ∧ a < r.start + r.size

/-- Whether one of two regions ends before the other one starts. -/
def Apart (r s : Region) : Prop := r.start + r.size ≤ s.start ∨ s.start + s.size ≤ r.start

theorem Apart.symm (h : r.Apart s) : s.Apart r := Or.symm h

theorem Apart.not_holds (h : r.Apart s) (ha : r.Holds a) : ¬ s.Holds a := by
  simp only [Apart, Holds] at *
  omega

end Region

/-! ## Allocators -/

/-- What is relied on of an allocator for as long as its regions are in use: it hands out nothing that
is handed out already, and keeps away from what is.  `Valid` says of which heaps this is expected.
Whoever has a region may write there, and may give it back. -/
structure Allocator.Exclusive (A : Allocator) (Valid : Heap → Prop) : Prop extends A.Sound where
  /-- What is granted is handed out then, and so is what was before. -/
  live : ∀ {h h' : Heap} {size base : Nat}, Valid h → A.grant h size = some (base, h') →
    h'.live.Perm (⟨base, size⟩ :: h.live)
  /-- What is granted is apart from what is handed out. -/
  apart : ∀ {h h' : Heap} {size base : Nat}, Valid h → A.grant h size = some (base, h') →
    ∀ r ∈ h.live, Region.Apart ⟨base, size⟩ r
  /-- Granting a region changes no byte of the others. -/
  memory : ∀ {h h' : Heap} {size base : Nat}, Valid h → A.grant h size = some (base, h') →
    ∀ r ∈ h.live, ∀ a, r.Holds a → h'.memory a = h.memory a
  /-- More can be granted. -/
  valid : ∀ {h h' : Heap} {size base : Nat}, Valid h → A.grant h size = some (base, h') → Valid h'
  /-- What is handed out may be written to. -/
  write : ∀ {h : Heap} {m : Memory}, Valid h →
    (∀ a, (∀ r ∈ h.live, ¬ r.Holds a) → m a = h.memory a) → Valid { h with memory := m }
  /-- What is given back is handed out no longer. -/
  liveReclaim : ∀ {h : Heap} {r : Region}, Valid h → r ∈ h.live →
    (A.reclaim h r).live.Perm (h.live.erase r)
  /-- Taking a region back changes no byte of those that stay handed out. -/
  memoryReclaim : ∀ {h : Heap} {r : Region}, Valid h → r ∈ h.live →
    ∀ s ∈ h.live.erase r, ∀ a, s.Holds a → (A.reclaim h r).memory a = h.memory a
  /-- What is handed out may be given back, as it was granted. -/
  validReclaim : ∀ {h : Heap} {r : Region}, Valid h → r ∈ h.live → Valid (A.reclaim h r)

/-- A heap hands out regions one behind the other. -/
theorem exclusive_native :
    Allocator.native.Exclusive fun h ↦ ∀ r ∈ h.live, r.start + r.size ≤ h.next := by
  constructor
  case toSound => exact sound_native
  case live =>
    intro h h' size base _ hg
    obtain ⟨-, rfl, -, hlive, -⟩ := of_grant? hg
    rw [hlive]
  case apart =>
    intro h h' size base hvalid hg r hr
    obtain ⟨-, rfl, -⟩ := of_grant? hg
    exact .inr (hvalid r hr)
  case memory =>
    intro h h' size base hvalid hg r hr a ha
    obtain ⟨-, -, hmemory, -⟩ := of_grant? hg
    rw [hmemory]
    refine Memory.fill_of_not_mem fun hmem ↦ ?_
    exact Nat.not_lt.2 ((hvalid r hr).trans hmem.1) ha.2
  case valid =>
    intro h h' size base hvalid hg r hr
    obtain ⟨-, -, -, hlive, hnext⟩ := of_grant? hg
    rw [hlive] at hr
    rcases List.mem_cons.1 hr with rfl | hr
    · exact hnext
    · exact (hvalid r hr).trans ((Nat.le_add_right _ _).trans hnext)
  case write =>
    intro h m hvalid _
    exact hvalid
  case liveReclaim =>
    intro h r _ _
    exact .refl _
  case memoryReclaim =>
    intro h r _ _ s _ a _
    rfl
  case validReclaim =>
    intro h r hvalid _ s hs
    exact hvalid s (List.mem_of_mem_erase hs)

/-! ## Layouts -/

section Layouts

variable {size0 offset size1 total : UInt64} {layout : Layout}

/-- What is known of a layout for some sizes and an offset. -/
theorem of_ofSizes (h : Layout.ofSizes size0 offset size1 = .ok (layout, total)) :
    refusal? size0.toNat offset.toNat size1.toNat = none ∧ layout.offset = offset ∧
      layout.publicSize.toNat = roundUp size0.toNat 8 ∧
      layout.privateSize.toNat = roundUp size1.toNat 8 ∧
      total.toNat = 8 + roundUp size0.toNat 8 + roundUp size1.toNat 8 := by
  have heq := ofSizes_eq size0 offset size1
  cases hrefusal : refusal? size0.toNat offset.toNat size1.toNat with
  | some e =>
    rw [hrefusal] at heq
    exact absurd (heq.symm.trans h) nofun
  | none =>
    rw [hrefusal] at heq
    obtain ⟨layout', total', hok, hparts⟩ := heq
    obtain ⟨rfl, rfl⟩ := Prod.mk.inj (Except.ok.inj (hok.symm.trans h))
    exact ⟨rfl, hparts⟩

/-- **The size of a block is found again** from the size of its payload. -/
theorem totalSize?_payload (h : Layout.ofSizes size0 offset size1 = .ok (layout, total)) :
    totalSize? layout.payload = some total := by
  obtain ⟨hrefusal, -, hpublic, hprivate, htotal⟩ := of_ofSizes h
  have hroom := (of_refusal?_eq_none hrefusal).2
  have htotal' : total.toNat = 8 + layout.publicSize.toNat + layout.privateSize.toNat := by
    rw [htotal, hpublic, hprivate]
  have hbind := (bind_totalSize?_eq_some_iff (hpublic ▸ dvd_roundUp) (hprivate ▸ dvd_roundUp)).2
    ⟨htotal', by rwa [hpublic, hprivate]⟩
  obtain ⟨payload, hsum, htotal⟩ := Option.bind_eq_some_iff.1 hbind
  rw [checkedAdd?] at hsum
  split at hsum
  case isTrue => rwa [Layout.payload, Option.some.inj hsum]
  case isFalse => exact absurd hsum.symm (Option.some_ne_none _)

theorem toNat_payload (h : Layout.ofSizes size0 offset size1 = .ok (layout, total)) :
    layout.payload.toNat = roundUp size0.toNat 8 + roundUp size1.toNat 8 := by
  obtain ⟨-, -, -, -, htotal⟩ := of_ofSizes h
  have hagain := (totalSize?_eq_some_iff.1 (totalSize?_payload h)).1
  omega

/-- A new block is written to in its own region only. -/
theorem inscribe_of_not_holds {m : Memory} {base a : Nat}
    (h : Layout.ofSizes size0 offset size1 = .ok (layout, total))
    (ha : ¬ Region.Holds ⟨base, total.toNat⟩ a) : Heap.inscribe m base layout a = m a := by
  obtain ⟨hrefusal, hoffset, hpublic, hprivate, htotal⟩ := of_ofSizes h
  simp only [Region.Holds] at ha
  refine inscribe_of_not_mem (by omega) fun hpos ↦ ?_
  have hsome : 0 < layout.privateSize.toNat := hpos
  have hslot := (of_refusal?_eq_none hrefusal).1 (hprivate ▸ hsome)
  rw [hoffset]
  omega

end Layouts

/-- **Whatever comes of an allocation**: it is refused and leaves the heap alone, or a region is
granted for the whole of the layout and inscribed. -/
theorem runs_allocateFrom {S : Interface} {A : Allocator} {size0 offset size1 : UInt64}
    {h h' : Heap} {trace : Program.Trace S} {r : Except Error Placed}
    (hrun : (Heap.allocateFrom A size0 offset size1 h).Runs trace (r, h')) :
    ((∃ e, r = .error e) ∧ h' = h) ∨
      ∃ layout total base h₁, Layout.ofSizes size0 offset size1 = .ok (layout, total) ∧
        A.grant h total.toNat = some (base, h₁) ∧ r = .ok ⟨layout, base + 8⟩ ∧
        h' = { h₁ with memory := Heap.inscribe h₁.memory base layout } := by
  cases hl : Layout.ofSizes size0 offset size1 with
  | error e =>
    rw [allocateFrom_of_error hl] at hrun
    obtain ⟨-, hend⟩ := Program.runs_done.1 hrun
    obtain ⟨rfl, rfl⟩ := Prod.mk.inj hend
    exact .inl ⟨⟨e, rfl⟩, rfl⟩
  | ok found =>
    obtain ⟨layout, total⟩ := found
    cases hg : A.grant h total.toNat with
    | none =>
      rw [allocateFrom_of_none hl hg] at hrun
      obtain ⟨u, -, hrun⟩ := Program.runs_report.1 hrun
      obtain ⟨-, hend⟩ := Program.runs_done.1 hrun
      obtain ⟨rfl, rfl⟩ := Prod.mk.inj hend
      exact .inl ⟨⟨_, rfl⟩, rfl⟩
    | some granted =>
      obtain ⟨base, h₁⟩ := granted
      rw [allocateFrom_of_some hl hg] at hrun
      obtain ⟨-, hend⟩ := Program.runs_done.1 hrun
      obtain ⟨rfl, rfl⟩ := Prod.mk.inj hend
      exact .inr ⟨layout, total, base, h₁, rfl, hg, rfl, rfl⟩

/-! ## Blocks -/

/-- A block in use, with the request that it was allocated for. -/
structure Held where
  /-- The size asked for the public region. -/
  size0 : UInt64
  /-- Where in the public region the address of the private one is kept. -/
  offset : UInt64
  /-- The size asked for the private region, if there is to be one. -/
  size1 : UInt64
  /-- What came of the request. -/
  placed : Placed
  deriving DecidableEq, Repr

namespace Held

/-- The size of both regions together, rounded. -/
def payload (b : Held) : Nat := roundUp b.size0.toNat 8 + roundUp b.size1.toNat 8

/-- Where the block lies, with its header. -/
def region (b : Held) : Region := ⟨b.placed.pointer - 8, 8 + b.payload⟩

/-- Whether a block has the layout that its request comes to, behind a header. -/
structure Fits (b : Held) : Prop where
  /-- The request was not refused, and this is its layout. -/
  layout : ∃ total, Layout.ofSizes b.size0 b.offset b.size1 = .ok (b.placed.layout, total)
  /-- There is room for a header. -/
  behind : 8 ≤ b.placed.pointer

end Held

/-- A heap with the blocks in it that are in use. -/
structure Holding where
  /-- The memory, with all that is handed out. -/
  heap : Heap
  /-- The blocks, the last one first. -/
  blocks : List Held

namespace Holding

variable {A : Allocator} {Valid : Heap → Prop} {others : List Region} {w w' : Holding}
  {b c : Held} {m : Memory}

/-- One thing that is done with blocks.  Nothing keeps anybody from writing over the address of a
private region, and nothing from scrubbing a block as often as one likes. -/
inductive Step (A : Allocator) (w : Holding) : Holding → Prop
  /-- A request for a block is granted. -/
  | allocate {size0 offset size1 : UInt64} {trace : Program.Trace Program.silence} {placed : Placed}
      {h : Heap} (hrun : (Heap.allocateFrom A size0 offset size1 w.heap).Runs trace
        (.ok placed, h)) : Step A w ⟨h, ⟨size0, offset, size1, placed⟩ :: w.blocks⟩
  /-- A request for a block is refused. -/
  | refuse {size0 offset size1 : UInt64} {trace : Program.Trace Program.silence} {e : Error}
      {h : Heap} (hrun : (Heap.allocateFrom A size0 offset size1 w.heap).Runs trace
        (.error e, h)) : Step A w ⟨h, w.blocks⟩
  /-- Bytes are put somewhere in a payload. -/
  | write {b : Held} (hb : b ∈ w.blocks) {place : Nat} {bytes : Array UInt8}
      (hplace : place + bytes.size ≤ b.payload) : Step A w
        ⟨{ w.heap with memory := w.heap.memory.write (b.placed.pointer + place) bytes }, w.blocks⟩
  | scrub {b : Held} (hb : b ∈ w.blocks) :
      Step A w ⟨(w.heap.scrub b.placed.pointer).2, w.blocks⟩
  | release {b : Held} (hb : b ∈ w.blocks) :
      Step A w ⟨w.heap.releaseTo A (some b.placed.pointer), w.blocks.erase b⟩
  | releaseNull : Step A w ⟨w.heap.releaseTo A none, w.blocks⟩

/-- What is kept up of the blocks in use, in a heap with other regions that are handed out. -/
structure Orderly (Valid : Heap → Prop) (others : List Region) (w : Holding) : Prop where
  /-- The allocator can be relied on. -/
  valid : Valid w.heap
  /-- What is handed out is what the blocks lie in, and the others. -/
  regions : w.heap.live.Perm (w.blocks.map Held.region ++ others)
  /-- No two blocks have a byte in common. -/
  apart : w.blocks.Pairwise fun b c ↦ b.region.Apart c.region
  /-- Each block has the layout that its request comes to. -/
  fits : ∀ b ∈ w.blocks, b.Fits
  /-- Each header holds the size of the payload behind it. -/
  header : ∀ b ∈ w.blocks, w.heap.memory.readWord b.region.start = b.placed.layout.payload

namespace Orderly

theorem mem_live (hw : w.Orderly Valid others) (hb : b ∈ w.blocks) : b.region ∈ w.heap.live :=
  hw.regions.mem_iff.2 (List.mem_append_left others (List.mem_map_of_mem hb))

/-- Two blocks are apart, or they are one. -/
theorem region_apart (hw : w.Orderly Valid others) (hb : b ∈ w.blocks) (hc : c ∈ w.blocks)
    (hne : b ≠ c) : b.region.Apart c.region :=
  have : Std.Symm fun b c : Held ↦ b.region.Apart c.region := ⟨fun _ _ ↦ Region.Apart.symm⟩
  hw.apart.forall hb hc hne

/-- A block is apart from those that stay in use without it. -/
theorem apart_erase (hw : w.Orderly Valid others) (hb : b ∈ w.blocks)
    (hc : c ∈ w.blocks.erase b) : c.region.Apart b.region :=
  ((List.pairwise_cons.1 (hw.apart.perm (List.perm_cons_erase hb) Region.Apart.symm)).1 c hc).symm

theorem toNat_header (hw : w.Orderly Valid others) (hb : b ∈ w.blocks) :
    (w.heap.memory.readWord b.region.start).toNat = b.payload := by
  obtain ⟨total, hl⟩ := (hw.fits b hb).layout
  rw [hw.header b hb, toNat_payload hl]
  rfl

/-- **Headers are missed** by what changes inside a payload. -/
theorem header_of_payload (hw : w.Orderly Valid others) (hb : b ∈ w.blocks)
    (hm : ∀ a, ¬ (b.placed.pointer ≤ a ∧ a < b.placed.pointer + b.payload) →
      m a = w.heap.memory a) (hc : c ∈ w.blocks) :
    m.readWord c.region.start = w.heap.memory.readWord c.region.start := by
  have hbehind := (hw.fits b hb).behind
  refine Memory.readWord_congr fun i hi ↦ hm _ ?_
  by_cases hbc : b = c
  · subst hbc
    simp only [Held.region]
    omega
  · have hapart := hw.region_apart hb hc hbc
    simp only [Held.region, Region.Apart] at hapart ⊢
    omega

/-- **What changes inside a payload** leaves everything in order. -/
theorem of_payload (hA : A.Exclusive Valid) (hw : w.Orderly Valid others)
    (hb : b ∈ w.blocks)
    (hm : ∀ a, ¬ (b.placed.pointer ≤ a ∧ a < b.placed.pointer + b.payload) →
      m a = w.heap.memory a) :
    Orderly Valid others ⟨{ w.heap with memory := m }, w.blocks⟩ := by
  refine ⟨?_, hw.regions, hw.apart, hw.fits, fun c hc ↦ ?_⟩
  · refine hA.write hw.valid fun a ha ↦ hm a fun hin ↦ ha _ (hw.mem_live hb) ?_
    have hbehind := (hw.fits b hb).behind
    simp only [Region.Holds, Held.region]
    omega
  · exact (hw.header_of_payload hb hm hc).trans (hw.header c hc)

/-- No block is in use. -/
theorem start {h : Heap} (hvalid : Valid h) : Orderly Valid h.live ⟨h, []⟩ :=
  ⟨hvalid, .refl _, .nil, nofun, nofun⟩

/-- **A new block** is apart from the others, and its header is the only one that is written. -/
theorem allocated (hA : A.Exclusive Valid) (hw : w.Orderly Valid others)
    {size0 offset size1 total : UInt64} {layout : Layout} {base : Nat} {h₁ : Heap}
    (hl : Layout.ofSizes size0 offset size1 = .ok (layout, total))
    (hg : A.grant w.heap total.toNat = some (base, h₁)) :
    Orderly Valid others ⟨{ h₁ with memory := Heap.inscribe h₁.memory base layout },
      ⟨size0, offset, size1, layout, base + 8⟩ :: w.blocks⟩ := by
  obtain ⟨-, -, -, -, htotal⟩ := of_ofSizes hl
  have hregion : Held.region ⟨size0, offset, size1, layout, base + 8⟩ = ⟨base, total.toNat⟩ := by
    simp only [Held.region, Held.payload, htotal, Nat.add_sub_cancel, Nat.add_assoc]
  have hlive := hA.live hw.valid hg
  have hothers : ∀ b ∈ w.blocks, Region.Apart ⟨base, total.toNat⟩ b.region :=
    fun b hb ↦ hA.apart hw.valid hg _ (hw.mem_live hb)
  constructor
  case valid =>
    refine hA.write (hA.valid hw.valid hg) fun a ha ↦ inscribe_of_not_holds hl ?_
    exact ha _ (hlive.mem_iff.2 List.mem_cons_self)
  case regions =>
    rw [List.map_cons, hregion, List.cons_append]
    exact hlive.trans (hw.regions.cons _)
  case apart =>
    refine List.pairwise_cons.2 ⟨fun b hb ↦ ?_, hw.apart⟩
    rw [hregion]
    exact hothers b hb
  case fits => exact List.forall_mem_cons.2 ⟨⟨⟨total, hl⟩, Nat.le_add_left 8 base⟩, hw.fits⟩
  case header =>
    refine List.forall_mem_cons.2 ⟨?_, fun b hb ↦ ?_⟩
    · rw [hregion]
      exact readWord_inscribe
    · rw [← hw.header b hb]
      refine Memory.readWord_congr fun i hi ↦ ?_
      -- The header of another block is part of a region that was handed out before.
      have hin : b.region.Holds (b.region.start + i) :=
        ⟨Nat.le_add_right _ _, by simp only [Held.region]; omega⟩
      exact (inscribe_of_not_holds hl ((hothers b hb).symm.not_holds hin)).trans
        (hA.memory hw.valid hg _ (hw.mem_live hb) _ hin)

/-- **A block that is released** is cleared first, and then its region is given back. -/
theorem releaseTo_eq (A : Allocator) (hw : w.Orderly Valid others) (hb : b ∈ w.blocks) :
    w.heap.releaseTo A (some b.placed.pointer) =
      A.reclaim (w.heap.scrub b.placed.pointer).2 b.region := by
  obtain ⟨total, hl⟩ := (hw.fits b hb).layout
  obtain ⟨-, -, -, -, htotal⟩ := of_ofSizes hl
  have hheader : w.heap.memory.readWord (b.placed.pointer - Heap.headerSize) =
      b.placed.layout.payload := hw.header b hb
  have hregion : b.region = ⟨b.placed.pointer - Heap.headerSize, total.toNat⟩ := by
    simp only [Held.region, Held.payload, htotal, Heap.headerSize, Nat.add_assoc]
  simp only [Heap.releaseTo, Heap.scrub, hheader, totalSize?_payload hl, hregion]

/-- Scrubbing changes a payload and nothing else. -/
theorem memory_scrub (hw : w.Orderly Valid others) (hb : b ∈ w.blocks) (a : Nat) :
    (w.heap.scrub b.placed.pointer).2.memory a =
      if b.placed.pointer ≤ a ∧ a < b.placed.pointer + b.payload then 0 else w.heap.memory a := by
  have hsize : (w.heap.memory.readWord (b.placed.pointer - Heap.headerSize)).toNat = b.payload :=
    hw.toNat_header hb
  simp only [Heap.scrub, Memory.fill, hsize]

theorem scrubbed (hA : A.Exclusive Valid) (hw : w.Orderly Valid others)
    (hb : b ∈ w.blocks) : Orderly Valid others ⟨(w.heap.scrub b.placed.pointer).2, w.blocks⟩ :=
  hw.of_payload hA hb (m := (w.heap.scrub b.placed.pointer).2.memory)
    fun a ha ↦ (hw.memory_scrub hb a).trans (if_neg ha)

/-- What is handed out once a block has given its region back. -/
theorem live_erase (hw : w.Orderly Valid others) (hb : b ∈ w.blocks) :
    (w.heap.live.erase b.region).Perm ((w.blocks.erase b).map Held.region ++ others) := by
  have hblocks := ((List.perm_cons_erase hb).map Held.region).append_right others
  have hperm := (hw.regions.trans hblocks).erase b.region
  rwa [List.map_cons, List.cons_append, List.erase_cons_head] at hperm

theorem mem_live_erase (hw : w.Orderly Valid others) (hb : b ∈ w.blocks)
    (hc : c ∈ w.blocks.erase b) : c.region ∈ w.heap.live.erase b.region :=
  (hw.live_erase hb).mem_iff.2 (List.mem_append_left others (List.mem_map_of_mem hc))

/-- **A region that is given back** takes no byte of another block along. -/
theorem reclaimed (hA : A.Exclusive Valid) (hw : w.Orderly Valid others) (hb : b ∈ w.blocks) :
    Orderly Valid others ⟨A.reclaim w.heap b.region, w.blocks.erase b⟩ := by
  have hmem {c : Held} (hc : c ∈ w.blocks.erase b) : c ∈ w.blocks := List.mem_of_mem_erase hc
  have hlive := hw.mem_live hb
  constructor
  case valid => exact hA.validReclaim hw.valid hlive
  case regions => exact (hA.liveReclaim hw.valid hlive).trans (hw.live_erase hb)
  case apart => exact hw.apart.sublist List.erase_sublist
  case fits => exact fun c hc ↦ hw.fits c (hmem hc)
  case header =>
    intro c hc
    rw [← hw.header c (hmem hc)]
    refine Memory.readWord_congr fun i hi ↦ ?_
    have hin : c.region.Holds (c.region.start + i) :=
      ⟨Nat.le_add_right _ _, by simp only [Held.region]; omega⟩
    exact hA.memoryReclaim hw.valid hlive _ (hw.mem_live_erase hb hc) _ hin

theorem released (hA : A.Exclusive Valid) (hw : w.Orderly Valid others)
    (hb : b ∈ w.blocks) :
    Orderly Valid others ⟨w.heap.releaseTo A (some b.placed.pointer), w.blocks.erase b⟩ := by
  rw [hw.releaseTo_eq A hb]
  exact (hw.scrubbed hA hb).reclaimed hA hb

/-- **Every step** leaves the blocks in order. -/
theorem step (hA : A.Exclusive Valid) (hw : w.Orderly Valid others)
    (h : Step A w w') : w'.Orderly Valid others := by
  cases h with
  | allocate hrun =>
    obtain ⟨⟨e, he⟩, -⟩ | ⟨layout, total, base, h₁, hl, hg, hr, rfl⟩ := runs_allocateFrom hrun
    · exact absurd he nofun
    · obtain rfl := Except.ok.inj hr
      exact hw.allocated hA hl hg
  | refuse hrun =>
    obtain ⟨-, rfl⟩ | ⟨layout, total, base, h₁, -, -, hr, -⟩ := runs_allocateFrom hrun
    · exact hw
    · exact absurd hr nofun
  | write hb hplace =>
    exact hw.of_payload hA hb fun a ha ↦ Memory.write_of_not_mem (by omega)
  | scrub hb => exact hw.scrubbed hA hb
  | release hb => exact hw.released hA hb
  | releaseNull => exact hw

/-- **Whatever is done with blocks** leaves them in order. -/
theorem steps (hA : A.Exclusive Valid) (hw : w.Orderly Valid others)
    (h : Relation.ReflTransGen (Step A) w w') : w'.Orderly Valid others := by
  induction h with
  | refl => exact hw
  | tail _ hstep ih => exact ih.step hA hstep

end Orderly

/-! ## Scrubbing and releasing -/

/-- What scrubbing and releasing a block do to a heap with other blocks in it. -/
structure Confined (A : Allocator) (others : List Region) (w : Holding) (b : Held) : Prop where
  /-- The header holds the size of the payload. -/
  header : (w.heap.memory.readWord (b.placed.pointer - 8)).toNat = b.payload
  /-- Scrubbing tells how much it clears. -/
  scrubbed : (w.heap.scrub b.placed.pointer).1.toNat = b.payload
  /-- Scrubbing gives nothing back. -/
  live : (w.heap.scrub b.placed.pointer).2.live = w.heap.live
  /-- Scrubbing clears the whole payload. -/
  cleared : ∀ a, b.placed.pointer ≤ a → a < b.placed.pointer + b.payload →
    (w.heap.scrub b.placed.pointer).2.memory a = 0
  /-- Scrubbing changes nothing but the payload. -/
  unchanged : ∀ a, a < b.placed.pointer ∨ b.placed.pointer + b.payload ≤ a →
    (w.heap.scrub b.placed.pointer).2.memory a = w.heap.memory a
  /-- Scrubbing keeps every header, that of the block itself among them. -/
  headers : ∀ c ∈ w.blocks, (w.heap.scrub b.placed.pointer).2.memory.readWord
    (c.placed.pointer - 8) = w.heap.memory.readWord (c.placed.pointer - 8)
  /-- Scrubbing changes no byte of another block. -/
  neighbours : ∀ c ∈ w.blocks, c ≠ b → ∀ a, c.region.Holds a →
    (w.heap.scrub b.placed.pointer).2.memory a = w.heap.memory a
  /-- The size that the block was allocated with is found again. -/
  size : ∃ total, Layout.ofSizes b.size0 b.offset b.size1 = .ok (b.placed.layout, total) ∧
    totalSize? (w.heap.memory.readWord (b.placed.pointer - 8)) = some total ∧
    b.region = ⟨b.placed.pointer - 8, total.toNat⟩
  /-- What releasing gives back is handed out until then. -/
  handedOut : b.region ∈ w.heap.live
  /-- Releasing gives the whole region back, and the heap that the allocator finds then is the scrubbed
  one, where the payload is `cleared` and everything else is `unchanged`. -/
  released : w.heap.releaseTo A (some b.placed.pointer) =
    A.reclaim (w.heap.scrub b.placed.pointer).2 b.region
  /-- What is handed out after that is what the other blocks lie in, and what was handed out
  otherwise. -/
  remaining : (w.heap.releaseTo A (some b.placed.pointer)).live.Perm
    ((w.blocks.erase b).map Held.region ++ others)
  /-- Releasing changes no byte of another block. -/
  kept : ∀ c ∈ w.blocks.erase b, ∀ a, c.region.Holds a →
    (w.heap.releaseTo A (some b.placed.pointer)).memory a = w.heap.memory a

theorem Orderly.confined (hA : A.Exclusive Valid) (hw : w.Orderly Valid others)
    (hb : b ∈ w.blocks) : w.Confined A others b := by
  obtain ⟨total, hl⟩ := (hw.fits b hb).layout
  obtain ⟨-, -, -, -, htotal⟩ := of_ofSizes hl
  have hout (a : Nat) (ha : ¬ (b.placed.pointer ≤ a ∧ a < b.placed.pointer + b.payload)) :
      (w.heap.scrub b.placed.pointer).2.memory a = w.heap.memory a :=
    (hw.memory_scrub hb a).trans (if_neg ha)
  have hneighbour {c : Held} (hapart : c.region.Apart b.region) {a : Nat} (ha : c.region.Holds a) :
      (w.heap.scrub b.placed.pointer).2.memory a = w.heap.memory a := by
    refine hout a fun hmem ↦ hapart.not_holds ha ?_
    simp only [Region.Holds, Held.region]
    omega
  have hscrubbed := hw.scrubbed hA hb
  constructor
  case header => exact hw.toNat_header hb
  case scrubbed => exact hw.toNat_header hb
  case live => rfl
  case cleared => exact fun a hle hlt ↦ (hw.memory_scrub hb a).trans (if_pos ⟨hle, hlt⟩)
  case unchanged => exact fun a ha ↦ hout a (by omega)
  case headers => exact fun c hc ↦ hw.header_of_payload hb hout hc
  case neighbours => exact fun c hc hne a ↦ hneighbour (hw.region_apart hc hb hne)
  case size =>
    refine ⟨total, hl, ?_, ?_⟩
    · have hheader : w.heap.memory.readWord (b.placed.pointer - 8) = b.placed.layout.payload :=
        hw.header b hb
      rw [hheader, totalSize?_payload hl]
    · simp only [Held.region, Held.payload, htotal, Nat.add_assoc]
  case handedOut => exact hw.mem_live hb
  case released => exact hw.releaseTo_eq A hb
  case remaining => exact (hw.released hA hb).regions
  case kept =>
    intro c hc a ha
    rw [hw.releaseTo_eq A hb,
      hA.memoryReclaim hscrubbed.valid (hscrubbed.mem_live hb) _
        (hscrubbed.mem_live_erase hb hc) a ha]
    exact hneighbour (hw.apart_erase hb hc) ha

/-- **Scrubbing and releasing keep to their own block.**  However blocks are allocated, written to,
scrubbed and released, starting with none: beside what was handed out before, what is handed out is
what the blocks in use lie in, and for each of them the header holds the size of its payload, scrubbing
clears this and nothing else, and releasing gives the whole region back behind it once it is cleared.
Releasing nothing does nothing. -/
theorem blocks_confined (hA : A.Exclusive Valid) {h : Heap} (hvalid : Valid h)
    (hw : Relation.ReflTransGen (Step A) ⟨h, []⟩ w) :
    w.heap.live.Perm (w.blocks.map Held.region ++ h.live) ∧
      (∀ b ∈ w.blocks, w.Confined A h.live b) ∧ w.heap.releaseTo A none = w.heap := by
  have horderly := (Orderly.start hvalid).steps hA hw
  exact ⟨horderly.regions, fun b hb ↦ horderly.confined hA hb, rfl⟩

/-- A request that is granted is a step. -/
theorem step_of_grant (size0 offset size1 : UInt64) {total : UInt64} {layout : Layout} {base : Nat}
    {h₁ : Heap} (hl : Layout.ofSizes size0 offset size1 = .ok (layout, total))
    (hg : A.grant w.heap total.toNat = some (base, h₁)) :
    Step A w ⟨{ h₁ with memory := Heap.inscribe h₁.memory base layout },
      ⟨size0, offset, size1, layout, base + 8⟩ :: w.blocks⟩ := by
  have hrun : (Heap.allocateFrom (S := Program.silence) A size0 offset size1 w.heap).Runs []
      (.ok ⟨layout, base + 8⟩, { h₁ with memory := Heap.inscribe h₁.memory base layout }) := by
    rw [allocateFrom_of_some hl hg]
    exact .done _
  exact .allocate hrun

/-- Two blocks, of which the first one has its whole payload overwritten, with the address of its
private region, and is scrubbed twice. -/
theorem blocks_confined_two :
    let first : Held := ⟨13, 8, 3, ⟨16, 8, 8⟩, 0x7f3a5c000018⟩
    let second : Held := ⟨5, 0, 0, ⟨8, 0, 0⟩, 0x7f3a5c000038⟩
    ∃ w : Holding, Relation.ReflTransGen (Step .native) ⟨.empty, []⟩ w ∧
      w.blocks = [second, first] ∧ first.payload = 24 ∧ w.Confined .native [] first ∧
        w.Confined .native [] second := by
  intro first second
  have hfirst : Relation.ReflTransGen (Step .native) ⟨.empty, []⟩ ⟨_, [first]⟩ :=
    .single (step_of_grant 13 8 3 rfl rfl)
  have hwritten := hfirst.tail (.write List.mem_cons_self
    (show 0 + (Array.replicate 24 (0xff : UInt8)).size ≤ first.payload by decide))
  have hsecond : Relation.ReflTransGen (Step .native) ⟨.empty, []⟩ ⟨_, [second, first]⟩ :=
    hwritten.tail (step_of_grant 5 0 0 rfl rfl)
  have hmem : first ∈ [second, first] := List.mem_cons_of_mem second List.mem_cons_self
  have hreach := (hsecond.tail (.scrub (b := first) hmem)).tail (.scrub (b := first) hmem)
  obtain ⟨-, hconfined, -⟩ := blocks_confined exclusive_native (h := .empty) nofun hreach
  exact ⟨_, hreach, rfl, by decide, hconfined first hmem,
    hconfined second List.mem_cons_self⟩

end Holding

end BusAccess.Block
