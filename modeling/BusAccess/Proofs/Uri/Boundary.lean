import BusAccess.Proofs.Uri.Reader

/-!
# Readers stay between characters

A reader keeps its place as a number of bytes, and it moves by numbers of bytes that two different
ways of reading come to: a scan adds up the lengths of characters, an integer counts the bytes it has
looked at.  Whatever it is asked to do, and whether or not it can do it, the place it comes to is one
between two characters of the source.

Beside a cursor there is little left to show, because a cursor has no other places.  Each call takes
a piece from what is left, of as many characters as it is answered (`Reader.Call.taken`): this is so
for one call (`Cursor.call_eq_skip`), and then the pieces of all calls, one after another, and what is
left in the end are the source (`Cursor.calls_parts`).
-/

set_option autoImplicit false

namespace BusAccess.Uri

namespace Reader

/-- The flags of a call. -/
def Call.flags : Call → Flags
  | .scan _ flags _ => flags
  | .integer _ flags => flags

/-- How many characters were found, by the answer to a call. -/
def Answer.found : Answer → Nat
  | .scanned (.ok count) _ => count
  | .integer (.ok found) => found.length
  | .scanned (.error _) _ => 0
  | .integer (.error _) => 0

/-- How many characters a call takes away from what is left, by the answer to it. -/
def Call.taken (x : Call) (answer : Answer) : Nat :=
  if x.flags.preserves then 0 else answer.found

end Reader

open Reader

namespace Cursor

variable {passed left : List Char}

/-- Nothing is found beyond the end. -/
theorem found_call_le (passed left : List Char) (x : Call) :
    ((⟨passed, some left⟩ : Cursor).call x).1.found ≤ left.length := by
  cases x with
  | scan p flags buffer => exact (p.matched_isPrefix left).length_le
  | integer base flags =>
    cases hb : validBase base with
    | false => simp [call, scanInteger, hb, Answer.found]
    | true => simpa [call, scanInteger, hb, Answer.found] using length_readInteger_le base left

/-- **A call takes** as many characters as it is answered. -/
theorem call_eq_skip (x : Call) :
    ((⟨passed, some left⟩ : Cursor).call x).2 =
      (⟨passed, some left⟩ : Cursor).skip (x.taken ((⟨passed, some left⟩ : Cursor).call x).1) := by
  cases x with
  | scan p flags buffer =>
    cases hf : flags.preserves <;> simp [call, scan, Call.taken, Call.flags, Answer.found, hf]
  | integer base flags =>
    cases hb : validBase base <;> cases hf : flags.preserves <;>
      simp [call, scanInteger, Call.taken, Call.flags, Answer.found, hb, hf]

/-- The piece that a call takes. -/
theorem call_parts (passed left : List Char) (x : Call) :
    ∃ piece rest, left = piece ++ rest ∧
      ((⟨passed, some left⟩ : Cursor).call x).2 = ⟨passed ++ piece, some rest⟩ ∧
      piece.length = x.taken ((⟨passed, some left⟩ : Cursor).call x).1 := by
  have hle : x.taken ((⟨passed, some left⟩ : Cursor).call x).1 ≤ left.length := by
    have hfound := found_call_le passed left x
    rw [Call.taken]
    split <;> omega
  refine ⟨_, _, (List.take_append_drop _ left).symm, ?_, List.length_take_of_le hle⟩
  rw [call_eq_skip, skip_mk]

/-- **Calls part the source** into the pieces that they take, one after another, and a rest. -/
theorem calls_parts (passed left : List Char) (xs : List Call) :
    ∃ (pieces : List (List Char)) (rest : List Char), left = pieces.flatten ++ rest ∧
      ((⟨passed, some left⟩ : Cursor).calls xs).2 = ⟨passed ++ pieces.flatten, some rest⟩ ∧
      pieces.map List.length =
        List.zipWith Call.taken xs ((⟨passed, some left⟩ : Cursor).calls xs).1 := by
  induction xs generalizing passed left with
  | nil => exact ⟨[], left, by simp [calls]⟩
  | cons x xs ih =>
    obtain ⟨piece, left₁, hleft, hcall, hlen⟩ := call_parts passed left x
    obtain ⟨pieces, rest, hleft₁, hcalls, hlens⟩ := ih (passed ++ piece) left₁
    refine ⟨piece :: pieces, rest, ?_, ?_, ?_⟩
    · rw [hleft, hleft₁, List.flatten_cons, List.append_assoc]
    · simp [calls, hcall, hcalls, List.append_assoc]
    · simp [calls, hcall, hlens, hlen]

/-- Every call is answered. -/
theorem length_calls (c : Cursor) (xs : List Call) : (c.calls xs).1.length = xs.length := by
  induction xs generalizing c with
  | nil => rfl
  | cons x xs ih => simp [calls, ih]

end Cursor

namespace Reader

variable {r : Reader} {passed left : List Char}

/-- A reader beside a cursor is between two characters. -/
theorem isValid_of_shows {source : String} (hr : r.source = some source)
    (h : r.Shows ⟨passed, some left⟩) :
    (⟨r.position⟩ : String.Pos.Raw).IsValid source := by
  have hrest := rest?_of_shows h
  rw [rest?, hr] at hrest
  rw [← isSome_cut?_iff]
  cases hcut : cut? r.position source.toList with
  | none => simp [hcut] at hrest
  | some parts => rfl

/-- A call takes a reader no step back. -/
theorem position_le_of_shows (h : r.Shows ⟨passed, some left⟩) (x : Call) :
    ∃ answer r', r.call x = some (answer, r') ∧ r.position ≤ r'.position := by
  obtain ⟨r', hx, h'⟩ := call_of_shows h x
  obtain ⟨piece, rest, -, hcall, -⟩ := Cursor.call_parts passed left x
  rw [hcall] at h'
  refine ⟨_, r', hx, ?_⟩
  have hp : r.position = byteLength passed := h.2
  have hp' : r'.position = byteLength (passed ++ piece) := h'.2
  rw [byteLength_append] at hp'
  omega

/-- **A reader never leaves the boundaries of characters.**  Whatever it has been asked, there was an
answer each time; it is now at a place between two characters of its source, and behind the
characters that the calls have taken there is just what it has left.  Whatever it is asked next, it
does not go back. -/
theorem between_characters (source : String) (xs : List Call) :
    ∃ (answers : List Answer) (r : Reader) (pieces : List (List Char)) (rest : List Char),
      (ofSource (some source)).calls xs = some (answers, r) ∧
      answers.length = xs.length ∧
      pieces.map List.length = List.zipWith Call.taken xs answers ∧
      source.toList = pieces.flatten ++ rest ∧
      r.rest? = some rest ∧
      r.position = byteLength pieces.flatten ∧
      r.position ≤ source.utf8ByteSize ∧
      (⟨r.position⟩ : String.Pos.Raw).IsValid source ∧
      ∀ x, ∃ answer r', r.call x = some (answer, r') ∧ r.position ≤ r'.position := by
  obtain ⟨r, hcalls, hr⟩ := calls_of_shows (shows_ofSource (some source)) xs
  obtain ⟨pieces, rest, hsource, hend, hlens⟩ := Cursor.calls_parts [] source.toList xs
  have hshows : r.Shows ⟨pieces.flatten, some rest⟩ := by
    rwa [← List.nil_append pieces.flatten, ← hend]
  have hposition : r.position = byteLength pieces.flatten := hshows.2
  have hr' : r.source = some source := by
    rw [hshows.1, ← hsource, String.ofList_toList]
  refine ⟨_, r, pieces, rest, hcalls, Cursor.length_calls _ xs, hlens, hsource,
    rest?_of_shows hshows, hposition, ?_, isValid_of_shows hr' hshows, position_le_of_shows hshows⟩
  rw [hposition, ← byteLength_toList, hsource, byteLength_append]
  omega

-- The last integer is not found, and the character behind the first one is not looked into.
example : ((ofSource (some "é 7é")).calls [.scan (.among "é") {} none, .integer 10 {},
    .integer 10 {}]).map (·.2.position) = some 4 := by
  decide

end Reader

end BusAccess.Uri
