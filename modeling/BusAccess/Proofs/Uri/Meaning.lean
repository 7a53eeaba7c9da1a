import BusAccess.Proofs.Uri.Boundary

/-!
# What a scan means

`Reader.scan` is a loop with a state; what comes out of it can be said without either.  A set of
characters stands for the longest piece at the start of the rest whose characters are all in the set,
or all outside of it.  A fixed text stands for itself if the rest starts with it, and for nothing
otherwise (`Pattern.Means`).  Of the piece that is found, a buffer keeps the longest part from its
start on that has room (`Capture.Keeps`).

Both are longest prefixes.  The two loops that look for them stop at the first character that will
not do, and this is right for the same reason: what does not hold of a text does not hold of a longer
one that starts with it.
-/

set_option autoImplicit false

namespace BusAccess.Uri

variable {c : Char} {piece cs ds : List Char}

/-! ## Longest prefixes -/

/-- A text that begins another, the longest of those for which something holds. -/
structure IsLongestPrefix (q : List Char → Prop) (piece cs : List Char) : Prop where
  /-- It begins the text. -/
  isPrefix : piece <+: cs
  /-- It is one of those. -/
  holds : q piece
  /-- None of those is longer. -/
  longest : ∀ ds, ds <+: cs → q ds → ds.length ≤ piece.length

namespace IsLongestPrefix

variable {q : List Char → Prop}

theorem nil (hq : q []) : IsLongestPrefix q [] [] :=
  ⟨List.prefix_refl [], hq, fun _ hds _ ↦ hds.length_le⟩

/-- The first character will do, and the rest begins behind it. -/
theorem cons (h : IsLongestPrefix (fun ds ↦ q (c :: ds)) piece cs) :
    IsLongestPrefix q (c :: piece) (c :: cs) := by
  refine ⟨(List.prefix_cons_inj c).2 h.isPrefix, h.holds, fun ds hds hq ↦ ?_⟩
  cases ds with
  | nil => exact Nat.zero_le _
  | cons d ds =>
    obtain ⟨hd, htail⟩ := List.cons_prefix_cons.1 hds
    subst hd
    exact Nat.succ_le_succ (h.longest ds htail hq)

/-- The first character will not do. -/
theorem stop (hq : q []) (h : ∀ ds, ¬ q (c :: ds)) : IsLongestPrefix q [] (c :: cs) := by
  refine ⟨List.nil_prefix, hq, fun ds hds hq ↦ ?_⟩
  cases ds with
  | nil => exact Nat.le_refl 0
  | cons d ds =>
    obtain ⟨hd, -⟩ := List.cons_prefix_cons.1 hds
    subst hd
    exact absurd hq (h ds)

/-- There is only one. -/
theorem unique (h : IsLongestPrefix q piece cs) (h' : IsLongestPrefix q ds cs) : piece = ds := by
  have hle := h.longest ds h'.isPrefix h'.holds
  have hge := h'.longest piece h.isPrefix h.holds
  have hlen : piece.length = ds.length := by omega
  exact (List.prefix_of_prefix_length_le h.isPrefix h'.isPrefix hge).eq_of_length hlen

/-- It is the whole text if that will do. -/
theorem eq_of_holds (h : IsLongestPrefix q piece cs) (hq : q cs) : piece = cs :=
  h.isPrefix.eq_of_length_le (h.longest cs (List.prefix_refl cs) hq)

end IsLongestPrefix

theorem isLongestPrefix_takeWhile {test : Char → Bool} {q : Char → Prop}
    (htest : ∀ c, test c = true ↔ q c) (cs : List Char) :
    IsLongestPrefix (fun ds ↦ ∀ c ∈ ds, q c) (cs.takeWhile test) cs := by
  induction cs with
  | nil => exact .nil (by simp)
  | cons c cs ih =>
    by_cases hc : test c = true
    · have hq := (htest c).1 hc
      rw [List.takeWhile_cons_of_pos hc]
      exact .cons (by simpa [hq] using ih)
    · have hq := mt (htest c).2 hc
      rw [List.takeWhile_cons_of_neg hc]
      exact .stop (by simp) (by simp [hq])

/-! ## Patterns -/

/-- The piece that a pattern stands for at the start of a text. -/
def Pattern.Means (p : Pattern) (piece cs : List Char) : Prop :=
  match p with
  | .literal text => piece = if text.toList <+: cs then text.toList else []
  | .among set => IsLongestPrefix (fun ds ↦ ∀ c ∈ ds, c ∈ set.toList) piece cs
  | .until set => IsLongestPrefix (fun ds ↦ ∀ c ∈ ds, c ∉ set.toList) piece cs

/-- **A pattern stands for one piece**, and this is the one that it takes. -/
theorem Pattern.means_iff (p : Pattern) : p.Means piece cs ↔ piece = p.matched cs := by
  have hset : ∀ (test : Char → Bool) (q : Char → Prop), (∀ c, test c = true ↔ q c) →
      (IsLongestPrefix (fun ds ↦ ∀ c ∈ ds, q c) piece cs ↔ piece = cs.takeWhile test) := by
    intro test q htest
    have hlongest := isLongestPrefix_takeWhile htest cs
    exact ⟨fun h ↦ h.unique hlongest, fun h ↦ h ▸ hlongest⟩
  cases p with
  | literal text => simp only [Means, matched, List.isPrefixOf_iff_prefix]
  | among set => exact hset _ _ (by simp)
  | «until» set => exact hset _ _ (by simp)

/-! ## Buffers -/

namespace Capture

/-- Whether a buffer has room for a text. -/
def HasRoom (b : Capture) (cs : List Char) : Prop := ∀ n ∈ b.capacity, byteLength cs ≤ n

/-- Whether a buffer keeps of a piece what it has room for, and nothing else. -/
def Keeps (piece : List Char) (b b' : Capture) : Prop :=
  b'.capacity = b.capacity ∧ IsLongestPrefix b.HasRoom b'.text piece

variable {b : Capture}

theorem fits_iff : b.fits c = true ↔ b.HasRoom (b.text ++ [c]) := by
  rw [HasRoom, byteLength_append]
  cases hb : b.capacity <;> simp [fits, hb]

/-- Where there is room for a text, there is for its beginning. -/
theorem HasRoom.of_append (h : b.HasRoom (cs ++ ds)) : b.HasRoom cs := by
  intro n hn
  have hle := h n hn
  rw [byteLength_append] at hle
  omega

/-- What is appended to the content of a buffer. -/
theorem fill_keeps (hb : b.HasRoom b.text) (cs : List Char) :
    ∃ kept, b.fill cs = { b with text := b.text ++ kept } ∧
      IsLongestPrefix (fun ds ↦ b.HasRoom (b.text ++ ds)) kept cs := by
  have hnil : b.HasRoom (b.text ++ []) := by simpa using hb
  induction cs generalizing b with
  | nil => exact ⟨[], by simp [fill], .nil hnil⟩
  | cons c cs ih =>
    by_cases hc : b.fits c = true
    · have hroom := fits_iff.1 hc
      obtain ⟨kept, hfill, hkept⟩ := ih (b := { b with text := b.text ++ [c] }) hroom
        (by rw [List.append_nil]; exact hroom)
      refine ⟨c :: kept, ?_, .cons ?_⟩
      · rw [fill, if_pos hc, hfill]
        simp
      · simpa [HasRoom] using hkept
    · have hfull : ∀ ds, ¬ b.HasRoom (b.text ++ c :: ds) := by
        intro ds hds
        rw [List.append_cons] at hds
        exact hc (fits_iff.2 hds.of_append)
      exact ⟨[], by simp [fill, hc], .stop hnil hfull⟩

/-- **What a buffer holds** after a scan, whatever it held before. -/
theorem keeps_store (b : Capture) (piece : List Char) : Keeps piece b (b.store piece) := by
  have hempty : b.clear.HasRoom b.clear.text := fun n _ ↦ Nat.zero_le n
  obtain ⟨kept, hfill, hkept⟩ := fill_keeps hempty piece
  rw [store_eq, hfill]
  exact ⟨rfl, hkept⟩

/-- Nothing is kept of nothing. -/
theorem Keeps.text_eq_nil {b' : Capture} (h : Keeps [] b b') : b'.text = [] :=
  List.prefix_nil.1 h.2.isPrefix

end Capture

/-! ## Scans -/

theorem Flags.preserves_eq_false_iff {flags : Flags} :
    flags.preserves = false ↔ flags.bits &&& 0x10 = 0 := by
  simp [preserves, preserve]

namespace Cursor

/-- Nothing can be taken from a source that is missing. -/
theorem call_of_none (passed : List Char) (x : Reader.Call) :
    ((⟨passed, none⟩ : Cursor).call x).2 = ⟨passed, none⟩ := by
  cases x with
  | scan p flags buffer => simp [call, scan]
  | integer base flags => cases hb : validBase base <;> simp [call, scanInteger, hb]

theorem calls_of_none (passed : List Char) (xs : List Reader.Call) :
    ((⟨passed, none⟩ : Cursor).calls xs).2 = ⟨passed, none⟩ := by
  induction xs with
  | nil => rfl
  | cons x xs ih => simp [calls, call_of_none, ih]

end Cursor

namespace Reader

variable {r : Reader} {passed left : List Char}

/-- A scan without a source is refused, and nothing is touched. -/
theorem scan_of_shows_none (h : r.Shows ⟨passed, none⟩) (p : Pattern) (flags : Flags)
    (buffer : Option Capture) : r.scan p flags buffer = (.error .invalidUri, buffer, r) := by
  have hs : r.source = none := h
  simp [scan, hs]

/-- Behind the piece that a pattern takes. -/
theorem rest?_advance_of_shows {piece rest : List Char}
    (h : r.Shows ⟨passed, some (piece ++ rest)⟩) {flags : Flags} (hf : flags.preserves = false) :
    (r.advance flags (byteLength piece)).rest? = some rest := by
  have hbehind := shows_advance h flags piece.length
  rw [List.take_left, hf, if_neg Bool.false_ne_true, Cursor.skip_mk, List.drop_left] at hbehind
  exact rest?_of_shows hbehind

/-- What a scan does at a place in a source: it finds a piece of what is left. -/
structure Finds (r : Reader) (p : Pattern) (flags : Flags) (buffer : Option Capture)
    (piece rest : List Char) (buffer' : Option Capture) (r' : Reader) : Prop where
  /-- The scan counts the characters of the piece. -/
  scan : r.scan p flags buffer = (.ok piece.length, buffer', r')
  /-- The piece is in front of what is left. -/
  left : r.rest? = some (piece ++ rest)
  /-- It is the piece that the pattern means there. -/
  means : p.Means piece (piece ++ rest)
  /-- The reader goes on behind the piece. -/
  goes : flags.bits &&& 0x10 = 0 →
    r' = { r with position := r.position + byteLength piece } ∧ r'.rest? = some rest
  /-- The reader goes nowhere if a flag says so. -/
  stays : flags.bits &&& 0x10 ≠ 0 → r' = r
  /-- A buffer keeps of the piece what fits. -/
  keeps : Option.Rel (Capture.Keeps piece) buffer buffer'
  /-- Nothing is kept of a part of a fixed text. -/
  misses : ∀ text, p = .literal text → ¬ text.toList <+: piece ++ rest →
    ∀ b ∈ buffer', b.text = []

/-- **A scan finds** the piece that its pattern stands for. -/
theorem finds_of_shows (h : r.Shows ⟨passed, some left⟩) (p : Pattern) (flags : Flags)
    (buffer : Option Capture) :
    ∃ piece rest buffer' r', r.Finds p flags buffer piece rest buffer' r' := by
  have hmeans := p.means_iff.2 (Eq.refl (p.matched left))
  have hscan := scan_of_shows h p flags buffer
  obtain ⟨rest, hleft⟩ := p.matched_isPrefix left
  generalize p.matched left = piece at hmeans hscan hleft
  subst hleft
  refine ⟨piece, rest, _, _, hscan, rest?_of_shows h, hmeans, ?goes, ?stays, ?keeps, ?misses⟩
  case goes =>
    intro hf
    have hgoes := Flags.preserves_eq_false_iff.2 hf
    exact ⟨by simp [advance, hgoes], rest?_advance_of_shows h hgoes⟩
  case stays =>
    intro hf
    have hstays : flags.preserves = true := by
      simpa using mt Flags.preserves_eq_false_iff.1 hf
    simp [advance, hstays]
  case keeps =>
    cases buffer with
    | none => exact .none
    | some b => exact .some (b.keeps_store piece)
  case misses =>
    rintro text rfl hmiss b hb
    rw [Pattern.Means, if_neg hmiss] at hmeans
    subst hmeans
    obtain ⟨b₀, -, rfl⟩ := Option.map_eq_some_iff.1 hb
    exact (b₀.keeps_store []).text_eq_nil

/-- **A scan finds what its pattern means**, wherever the calls before it have left the reader.  With
the one flag set it stays there, and no other flag counts.  What the buffer holds is kept of what was
found. -/
theorem scan_meaning (source : Option String) (xs : List Call) :
    ∃ (answers : List Answer) (r : Reader),
      (ofSource source).calls xs = some (answers, r) ∧
      ∀ (p : Pattern) (flags : Flags) (buffer : Option Capture),
        match source with
        | none => r.scan p flags buffer = (.error .invalidUri, buffer, r)
        | some _ => ∃ piece rest buffer' r', r.Finds p flags buffer piece rest buffer' r' := by
  obtain ⟨r, hcalls, hr⟩ := calls_of_shows (shows_ofSource source) xs
  refine ⟨_, r, hcalls, fun p flags buffer ↦ ?_⟩
  cases source with
  | none =>
    have hmissing : r.Shows ⟨[], none⟩ := by
      rw [← Cursor.calls_of_none [] xs]
      exact hr
    exact scan_of_shows_none hmissing p flags buffer
  | some source =>
    obtain ⟨pieces, left, -, hend, -⟩ := Cursor.calls_parts [] source.toList xs
    have hplace : r.Shows ⟨[] ++ pieces.flatten, some left⟩ := by
      rw [← hend]
      exact hr
    exact finds_of_shows hplace p flags buffer

-- Two characters are found, and three bytes have room for one of them.
example : (ofSource (some "ééa")).scan (.until "a") {} (some ⟨some 3, ['x']⟩) =
    (.ok 2, some ⟨some 3, ['é']⟩, ⟨some "ééa", 4⟩) := by
  rfl

end Reader

end BusAccess.Uri
