import BusAccess.Proofs.Uri.Bytes

/-!
# Readers do what cursors do

A scan on a reader goes through the rest of its source character by character, with one loop for all
patterns, and keeps a count of characters, a count of bytes and a buffer as it goes.  What this comes
to is that it takes a piece of the rest, and everything it keeps is as if it had taken the piece as a
whole (`Progress.foldl_take`).  The piece is the one that a cursor takes (`Progress.run_of_test`,
`Progress.run_of_prefix`).  Only for a fixed text that does not come to its end there is more to it:
the loop has taken something, and the scan takes it back.

So a reader and a cursor that stand at the same place of the same source answer every call alike, and
stand at the same place afterwards (`Reader.call_of_shows`, `Reader.calls_of_shows`).
-/

set_option autoImplicit false

namespace BusAccess.Uri

variable {c : Char} {cs piece : List Char}

/-! ## The loop of a scan -/

namespace Progress

variable {p : Pattern} {s : Progress}

@[simp] theorem take_consumed (s : Progress) (c : Char) : (s.take c).consumed = s.consumed + 1 := rfl

@[simp] theorem take_bytes (s : Progress) (c : Char) : (s.take c).bytes = s.bytes + c.utf8Size := rfl

@[simp] theorem take_expected (s : Progress) (c : Char) : (s.take c).expected = s.expected.tail := rfl

theorem take_capture_of_full (hs : s.full = true) (c : Char) :
    (s.take c).capture = s.capture ∧ (s.take c).full = true := by
  cases hb : s.capture <;> simp [take, keep, hb, hs]

/-- The buffer of a scan in progress, unless it has refused something. -/
theorem take_capture_of_not_full (hs : s.full = false) (c : Char) (piece : List Char) :
    (if (s.take c).full then (s.take c).capture else (s.take c).capture.map (·.fill piece)) =
      s.capture.map (·.fill (c :: piece)) := by
  cases hb : s.capture with
  | none => simp [take, keep, hb, hs]
  | some b =>
    by_cases hc : b.fits c = true
    · simp [take, keep, hb, hs, Capture.push, Capture.fill, hc]
    · simp [take, keep, hb, hs, Capture.push, Capture.fill, hc]

theorem foldl_take_capture (s : Progress) (piece : List Char) :
    (piece.foldl take s).capture =
      if s.full then s.capture else s.capture.map (·.fill piece) := by
  induction piece generalizing s with
  | nil => cases hb : s.capture <;> simp [hb, Capture.fill]
  | cons c piece ih =>
    rw [List.foldl_cons, ih]
    cases hs : s.full with
    | true => simp [take_capture_of_full hs c]
    | false => simpa using take_capture_of_not_full hs c piece

/-- **A scan keeps count** of what it has taken as if it were one piece. -/
theorem foldl_take (s : Progress) (piece : List Char) :
    (piece.foldl take s).consumed = s.consumed + piece.length ∧
      (piece.foldl take s).bytes = s.bytes + byteLength piece ∧
      (piece.foldl take s).expected = s.expected.drop piece.length := by
  induction piece generalizing s with
  | nil => simp
  | cons c piece ih =>
    obtain ⟨hn, hb, he⟩ := ih (s.take c)
    rw [List.foldl_cons, hn, hb, he, take_consumed, take_bytes, take_expected, List.length_cons,
      byteLength_cons, List.drop_tail]
    refine ⟨?_, ?_, rfl⟩ <;> omega

/-- Whatever is expected, what is taken is a piece of the text. -/
theorem run_eq_foldl (p : Pattern) (cs : List Char) (s : Progress) :
    ∃ piece : List Char, run p cs s = piece.foldl take s := by
  induction cs generalizing s with
  | nil => exact ⟨[], rfl⟩
  | cons c cs ih =>
    rw [run]
    split
    · obtain ⟨piece, h⟩ := ih (s.take c)
      exact ⟨c :: piece, h⟩
    · exact ⟨[], rfl⟩

/-- A pattern that goes by a test takes the longest stretch that passes. -/
theorem run_of_test {test : Char → Bool} (h : ∀ expected c, p.accepts expected c = test c)
    (cs : List Char) (s : Progress) : run p cs s = (cs.takeWhile test).foldl take s := by
  induction cs generalizing s with
  | nil => rfl
  | cons c cs ih =>
    rw [run, h]
    split
    case isTrue hc => rw [ih, List.takeWhile_cons_of_pos hc, List.foldl_cons]
    case isFalse hc => rw [List.takeWhile_cons_of_neg hc, List.foldl_nil]

/-- A fixed text that comes next is taken as a whole. -/
theorem run_of_prefix {text : String} (h : s.expected <+: cs) :
    run (.literal text) cs s = s.expected.foldl take s := by
  induction cs generalizing s with
  | nil => rw [List.prefix_nil.1 h, List.foldl_nil, run]
  | cons c cs ih =>
    rw [run]
    cases he : s.expected with
    | nil => simp [Pattern.accepts]
    | cons e es =>
      rw [he] at h
      obtain ⟨rfl, hes⟩ := List.cons_prefix_cons.1 h
      have htail : (s.take e).expected = es := by rw [take_expected, he, List.tail_cons]
      rw [← htail] at hes ⊢
      simpa [Pattern.accepts] using ih hes

/-- Of one that does not come next, something is still to come in the end. -/
theorem run_of_not_prefix {text : String} (h : ¬ s.expected <+: cs) :
    (run (.literal text) cs s).expected ≠ [] := by
  induction cs generalizing s with
  | nil => exact fun he ↦ h (he ▸ List.nil_prefix)
  | cons c cs ih =>
    rw [run]
    cases he : s.expected with
    | nil => exact absurd (he ▸ List.nil_prefix) h
    | cons e es =>
      rw [he, List.cons_prefix_cons] at h
      by_cases hc : e = c
      · have hes : ¬ (s.take c).expected <+: cs := by
          rw [take_expected, he, List.tail_cons]
          exact fun hes ↦ h ⟨hc, hes⟩
        simpa [Pattern.accepts, hc] using ih hes
      · simp [Pattern.accepts, hc, he]

end Progress

/-! ## Scans -/

theorem Capture.store_eq (b : Capture) (cs : List Char) : b.store cs = b.clear.fill cs := rfl

theorem Capture.store_nil (b : Capture) : b.store [] = b.clear := rfl

@[simp] theorem Capture.clear_clear (b : Capture) : b.clear.clear = b.clear := rfl

theorem Capture.clear_fill (b : Capture) (cs : List Char) : (b.fill cs).clear = b.clear := by
  induction cs generalizing b with
  | nil => rfl
  | cons c cs ih =>
    rw [fill]
    split
    · exact ih _
    · rfl

namespace Reader

variable {r : Reader} {flags : Flags} {buffer : Option Capture}

@[simp] theorem advance_zero (r : Reader) (flags : Flags) : r.advance flags 0 = r := by
  rw [advance]
  split <;> rfl

/-- What a scan answers if it has taken a piece, with nothing left to come. -/
theorem scan_of_run {source : String} (hr : r.source = some source) {p : Pattern}
    (hrun : Progress.run p r.rest (.start p buffer) =
      piece.foldl Progress.take (.start p buffer))
    (he : p.expected.drop piece.length = []) :
    r.scan p flags buffer =
      (.ok piece.length, buffer.map (·.store piece), r.advance flags (byteLength piece)) := by
  obtain ⟨hn, hb, he'⟩ := Progress.foldl_take (.start p buffer) piece
  have hexpected : (piece.foldl Progress.take (.start p buffer)).expected.isEmpty = true := by
    rw [he', Progress.start, he]
    rfl
  have hcapture : (piece.foldl Progress.take (.start p buffer)).capture =
      buffer.map (·.store piece) := by
    rw [Progress.foldl_take_capture]
    simp [Progress.start, Capture.store_eq, Function.comp_def]
  simp only [scan, hr, hrun, hexpected, if_true, hcapture, hn, hb]
  simp [Progress.start]

/-- What a scan answers if something is left to come: what the loop has put into the buffer is taken
out again. -/
theorem scan_of_left {source : String} (hr : r.source = some source) {p : Pattern}
    (he : (Progress.run p r.rest (.start p buffer)).expected ≠ []) :
    r.scan p flags buffer = (.ok 0, buffer.map (·.store []), r) := by
  have hcapture : (Progress.run p r.rest (.start p buffer)).capture.map Capture.clear =
      buffer.map (·.store []) := by
    obtain ⟨piece, hrun⟩ := Progress.run_eq_foldl p r.rest (.start p buffer)
    rw [hrun, Progress.foldl_take_capture]
    simp [Progress.start, Function.comp_def, Capture.clear_fill, Capture.store_nil]
  simp [scan, hr, he, hcapture]

/-- **A scan takes** the piece that its pattern takes. -/
theorem scan_eq {source : String} (hr : r.source = some source) (p : Pattern) :
    r.scan p flags buffer = (.ok (p.matched r.rest).length,
      buffer.map (·.store (p.matched r.rest)), r.advance flags (byteLength (p.matched r.rest))) := by
  cases p with
  | literal text =>
    by_cases h : text.toList <+: r.rest
    · have hmatched : (Pattern.literal text).matched r.rest = text.toList := by
        obtain ⟨ds, hds⟩ := h
        rw [← hds, Pattern.matched_literal_append]
      rw [hmatched]
      exact scan_of_run hr (Progress.run_of_prefix h) List.drop_length
    · rw [scan_of_left hr (Progress.run_of_not_prefix h), Pattern.matched_literal_of_not_prefix h,
        List.length_nil, byteLength_nil, advance_zero]
  | among set =>
    exact scan_of_run hr (Progress.run_of_test (fun _ _ ↦ rfl) _ _) List.drop_nil
  | «until» set =>
    exact scan_of_run hr (Progress.run_of_test (fun _ _ ↦ rfl) _ _) List.drop_nil

/-! ## Readers beside cursors -/

/-- Whether a reader stands where a cursor does. -/
def Shows (r : Reader) (c : Cursor) : Prop :=
  match c.left with
  | none => r.source = none
  | some left => r.source = some (.ofList (c.passed ++ left)) ∧ r.position = byteLength c.passed

theorem shows_ofSource (source : Option String) : (ofSource source).Shows (.ofSource source) := by
  cases source with
  | none => rfl
  | some s => exact ⟨congrArg some String.ofList_toList.symm, rfl⟩

section Place

variable {passed left : List Char}

theorem rest?_of_shows (h : r.Shows ⟨passed, some left⟩) : r.rest? = some left := by
  obtain ⟨hs, hp⟩ := h
  simp [rest?, hs, hp, cut?_append]

theorem rest_of_shows (h : r.Shows ⟨passed, some left⟩) : r.rest = left := by
  rw [rest, rest?_of_shows h, Option.getD_some]

/-- What a scan finds at a place between two characters, and the reader after it. -/
theorem scan_of_shows (h : r.Shows ⟨passed, some left⟩) (p : Pattern) (flags : Flags)
    (buffer : Option Capture) :
    r.scan p flags buffer = (.ok (p.matched left).length,
      buffer.map (·.store (p.matched left)), r.advance flags (byteLength (p.matched left))) := by
  rw [scan_eq h.1, rest_of_shows h]

/-- The next characters are behind both if they are behind one. -/
theorem shows_advance (h : r.Shows ⟨passed, some left⟩) (flags : Flags) (n : Nat) :
    (r.advance flags (byteLength (left.take n))).Shows
      (if flags.preserves then ⟨passed, some left⟩ else (⟨passed, some left⟩ : Cursor).skip n) := by
  rw [advance]
  split
  case isTrue => exact h
  case isFalse =>
    obtain ⟨hs, hp⟩ := h
    rw [Cursor.skip_mk]
    refine ⟨?_, ?_⟩
    · rw [List.append_assoc, List.take_append_drop]
      exact hs
    · rw [byteLength_append, ← hp]

end Place

end Reader

namespace Cursor

/-- What a cursor answers to what a reader can be asked to do, and the cursor after it. -/
def call (c : Cursor) : Reader.Call → Reader.Answer × Cursor
  | .scan p flags buffer =>
    match c.scan p flags buffer with
    | .ok found => (.scanned (.ok found.count) found.capture, found.cursor)
    | .error e => (.scanned (.error e) buffer, c)
  | .integer base flags =>
    match c.scanInteger base flags with
    | .ok (found, c') => (.integer (.ok found), c')
    | .error e => (.integer (.error e), c)

/-- The answers of a cursor to one call after another, and the cursor after them. -/
def calls (c : Cursor) : List Reader.Call → List Reader.Answer × Cursor
  | [] => ([], c)
  | x :: xs =>
    let (answer, c) := c.call x
    let (answers, c) := c.calls xs
    (answer :: answers, c)

end Cursor

namespace Reader

variable {r : Reader} {c : Cursor}

/-- **A reader answers a call** as a cursor at the same place does. -/
theorem call_of_shows (h : r.Shows c) (x : Call) :
    ∃ r', r.call x = some ((c.call x).1, r') ∧ r'.Shows (c.call x).2 := by
  obtain ⟨passed, left⟩ := c
  cases left with
  | none =>
    have hs : r.source = none := h
    cases x with
    | scan p flags buffer => exact ⟨r, by simp [call, scan, hs, Cursor.call, Cursor.scan], h⟩
    | integer base flags =>
      cases hb : validBase base <;>
        exact ⟨r, by simp [call, integer, hs, Cursor.call, Cursor.scanInteger, hb],
          by simpa [Cursor.call, Cursor.scanInteger, hb] using h⟩
  | some left =>
    have hrest := rest_of_shows h
    cases x with
    | scan p flags buffer =>
      have htake : left.take (p.matched left).length = p.matched left :=
        (List.prefix_iff_eq_take.1 (p.matched_isPrefix left)).symm
      have hshows := shows_advance h flags (p.matched left).length
      rw [htake] at hshows
      refine ⟨_, ?_, hshows⟩
      rw [call, scan_of_shows h]
      rfl
    | integer base flags =>
      cases hb : validBase base with
      | false =>
        exact ⟨r, by simp [call, integer, Cursor.call, Cursor.scanInteger, hb],
          by simpa [Cursor.call, Cursor.scanInteger, hb] using h⟩
      | true =>
        have hshows := shows_advance h flags (readInteger base left).length
        rw [byteLength_take_readInteger] at hshows
        refine ⟨_, ?_, by simpa [Cursor.call, Cursor.scanInteger, hb] using hshows⟩
        simp [call, integer, h.1, hrest, readBytes?_eq, Cursor.call, Cursor.scanInteger, hb]

/-- **A reader answers calls** as a cursor does, however many there are. -/
theorem calls_of_shows (h : r.Shows c) (xs : List Call) :
    ∃ r', r.calls xs = some ((c.calls xs).1, r') ∧ r'.Shows (c.calls xs).2 := by
  induction xs generalizing r c with
  | nil => exact ⟨r, rfl, h⟩
  | cons x xs ih =>
    obtain ⟨r₁, hx, h₁⟩ := call_of_shows h x
    obtain ⟨r₂, hxs, h₂⟩ := ih h₁
    exact ⟨r₂, by simp [calls, hx, hxs, Cursor.calls], h₂⟩

end Reader

end BusAccess.Uri
