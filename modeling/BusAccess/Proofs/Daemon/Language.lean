import BusAccess.Proofs.Daemon.Host
import BusAccess.Proofs.Uri.BusNumber

/-!
# The language of connection strings for a daemon

What strings there are that say where a daemon is was settled in terms of the scanner: by what a
buffer keeps of the host (`Location.parse_eq_ok_iff`), and by what is read as an integer in the path.
Where all characters are of one byte, both can be said without it.  The buffer keeps a host of 64
characters or less and no other, and the path has a decimal bus number in it.  `Location.Sentence`
puts these together to a grammar of its own, and `Location.accepts_sentences` says that it is the
language of the backend: every string of the grammar is accepted for what it says, and for any other
no bus is made, without a word to the daemon.

Beyond ASCII the grammar is not the language.  What is accepted there can be a host with more bytes
than the buffer has, shortened to what goes in.
-/

set_option autoImplicit false

namespace BusAccess.Daemon

open Program (Trace calls)
open Uri (BusPath Path keep? keep?_eq_some_iff path_iff_busPath)

namespace Location

/-! ## The grammar -/

/-- The connection strings for a daemon, and what they say. -/
inductive Sentence : List Char → Location → Prop
  | bare {path : List Char} {busnum : Option UInt32} (hpath : BusPath busnum path) :
      Sentence ("pigpiod".toList ++ path) { busnum }
  | located {host path : List Char} {port : Option (List Char)} {busnum : Option UInt32}
      (hhost : ∀ c ∈ host, c ≠ ':' ∧ c ≠ '/') (hlong : host.length ≤ 64)
      (hport : ∀ p ∈ port, p ≠ [] ∧ p.length ≤ 8 ∧ ∀ c ∈ p, c ∈ "0123456789".toList)
      (hpath : BusPath busnum path) :
      Sentence ("pigpiod".toList ++ ("://".toList ++ (host ++ portText port)) ++ path)
        { host := if host = [] then none else some (String.ofList host)
          port := port.map String.ofList
          busnum }

section Parts

variable {cs host authority : List Char} {port : Option (List Char)} {l : Location}

theorem hostOf_self (host : List Char) :
    hostOf host host = if host = [] then none else some (String.ofList host) := by
  simp only [hostOf, List.isEmpty_iff]

/-- A sentence has the parts that the scanner looks for, and its host is not too long. -/
theorem sentence_iff : Sentence cs l ↔ ∃ host port authority path,
    cs = name.toList ++ authority ++ path ∧ Authority host port authority ∧ Path l.busnum path ∧
      host.length ≤ hostCapacity ∧ l.host = hostOf host host ∧ l.port = port.map String.ofList := by
  constructor
  · intro h
    cases h with
    | @bare path _ hpath =>
      refine ⟨[], none, [], path, ?_, .omitted, path_iff_busPath.2 hpath, Nat.zero_le _, rfl, rfl⟩
      rw [List.append_nil]
      rfl
    | @located host path port _ hhost hlong hport hpath =>
      have hports : ∀ p ∈ port, IsPort p := by
        intro p hp
        obtain ⟨hne, hle, hdigits⟩ := hport p hp
        exact ⟨hne, hle, hdigits⟩
      exact ⟨host, port, _, path, rfl, .located hhost hports, path_iff_busPath.2 hpath, hlong,
        (hostOf_self host).symm, rfl⟩
  · rintro ⟨host, port, authority, path, rfl, ha, hn, hlong, hh, hp⟩
    obtain ⟨h?, p?, n⟩ := l
    obtain rfl : h? = _ := hh
    obtain rfl : p? = _ := hp
    cases ha with
    | omitted =>
      rw [List.append_nil]
      exact .bare (path_iff_busPath.1 hn)
    | located hhost hports =>
      have hport : ∀ p ∈ port, p ≠ [] ∧ p.length ≤ 8 ∧ ∀ c ∈ p, c ∈ "0123456789".toList :=
        fun p hp ↦ ⟨(hports p hp).nonempty, (hports p hp).length_le, (hports p hp).digits⟩
      rw [hostOf_self]
      exact .located hhost hlong hport (path_iff_busPath.1 hn)

/-- The characters of a host are characters of its authority. -/
theorem mem_of_mem_host {c : Char} (ha : Authority host port authority) (hc : c ∈ host) :
    c ∈ authority := by
  cases ha with
  | omitted => exact hc
  | located => exact List.mem_append_right _ (List.mem_append_left _ hc)

end Parts

/-! ## What is accepted, and what is not -/

section Strings

variable {uri : String} {l : Location}

/-- Characters of ASCII take up a byte each. -/
theorem utf8Size_of_ascii {c : Char} (h : c.toNat < 128) : c.utf8Size = 1 :=
  Char.utf8Size_eq_one_iff.2 (UInt32.le_iff_toNat_le.2 (Nat.le_of_lt_succ h))

/-- Whether a string is one of ASCII can be found out. -/
theorem ascii_of_all (h : (uri.toList.all fun c ↦ c.toNat < 128) = true) :
    ∀ c ∈ uri.toList, c.toNat < 128 :=
  fun c hc ↦ of_decide_eq_true (List.all_eq_true.1 h c hc)

/-- **A string of ASCII is accepted if it is a sentence**, for what the sentence says. -/
theorem parse_eq_ok_iff_sentence (hascii : ∀ c ∈ uri.toList, c.toNat < 128) :
    parse uri = .ok l ↔ Sentence uri.toList l := by
  have hkeep {host kept authority path : List Char} {port : Option (List Char)}
      (hu : uri.toList = name.toList ++ authority ++ path) (ha : Authority host port authority) :
      keep? hostCapacity host = some kept ↔ host.length ≤ hostCapacity ∧ kept = host := by
    refine keep?_eq_some_iff fun c hc ↦ utf8Size_of_ascii (hascii c ?_)
    rw [hu]
    exact List.mem_append_left _ (List.mem_append_right _ (mem_of_mem_host ha hc))
  rw [parse_eq_ok_iff, sentence_iff]
  constructor
  · rintro ⟨host, port, kept, authority, path, hu, ha, hn, hk, hh, hp⟩
    obtain ⟨hlong, rfl⟩ := (hkeep hu ha).1 hk
    exact ⟨kept, port, authority, path, hu, ha, hn, hlong, hh, hp⟩
  · rintro ⟨host, port, authority, path, hu, ha, hn, hlong, hh, hp⟩
    exact ⟨host, port, host, authority, path, hu, ha, hn, (hkeep hu ha).2 ⟨hlong, rfl⟩, hh, hp⟩

/-- A request with a string that is not accepted comes to an end. -/
theorem exists_run_of_error {fault : Fault} {source : Source} {params : I2c.Params}
    (hu : params.uri = some uri) (hl : parse uri = .error fault) :
    ∃ t, (create source params).Runs t (.error .invalidUri) := by
  rw [create]
  simp only [hu, hl]
  cases fault with
  | malformed => exact ⟨_, .done _⟩
  | hostTooLong => exact ⟨_, .report (.done _)⟩

end Strings

/-- **The language of the backend.**  A string of ASCII is accepted for what it says as a sentence, and
if it is not one then there is nothing that a request with it can come to but to be refused, before
the daemon is asked. -/
theorem accepts_sentences (uri : String) (hascii : ∀ c ∈ uri.toList, c.toNat < 128) :
    (∀ l, parse uri = .ok l ↔ Sentence uri.toList l) ∧
      ((∀ l, ¬ Sentence uri.toList l) →
        (∃ fault, parse uri = .error fault) ∧
        ∀ source params, params.uri = some uri →
          (∃ t, (create source params).Runs t (.error .invalidUri)) ∧
          ∀ t r, (create source params).Runs t r → r = .error .invalidUri ∧ calls t = []) := by
  have hsentence (l : Location) : parse uri = .ok l ↔ Sentence uri.toList l :=
    parse_eq_ok_iff_sentence hascii
  refine ⟨hsentence, fun hnone ↦ ?_⟩
  obtain ⟨fault, hfault⟩ : ∃ fault, parse uri = .error fault := by
    cases hparse : parse uri with
    | ok l => exact absurd ((hsentence l).1 hparse) (hnone l)
    | error fault => exact ⟨fault, rfl⟩
  exact ⟨⟨fault, hfault⟩, fun source params hu ↦
    ⟨exists_run_of_error hu hfault, fun t r h ↦ create_of_error hu hfault h⟩⟩

/-- A string with all its parts, which has blanks and zeros in front of the number, and one that has a
colon and no port. -/
theorem accepts_sentences_located :
    Sentence "pigpiod://raspberrypi.local:08888/ +007".toList
        ⟨some "raspberrypi.local", some "08888", some 7⟩ ∧
      ∃ t, (create ⟨none, none⟩ { uri := some "pigpiod://raspberrypi.local:/7" }).Runs t
        (.error .invalidUri) := by
  have hsentence : Sentence "pigpiod://raspberrypi.local:08888/ +007".toList
      ⟨some "raspberrypi.local", some "08888", some 7⟩ :=
    ((accepts_sentences "pigpiod://raspberrypi.local:08888/ +007" (ascii_of_all rfl)).1 _).1 (by rfl)
  obtain ⟨hparse, hrefused⟩ :=
    accepts_sentences "pigpiod://raspberrypi.local:/7" (ascii_of_all rfl)
  have hnone (l : Location) : ¬ Sentence "pigpiod://raspberrypi.local:/7".toList l := by
    rw [← hparse]
    exact nofun
  exact ⟨hsentence, ((hrefused hnone).2 ⟨none, none⟩ { uri := some _ } rfl).1⟩

end Location

end BusAccess.Daemon
