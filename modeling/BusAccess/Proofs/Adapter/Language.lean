import BusAccess.Adapter.I2c
import BusAccess.Proofs.Bus.Methods
import BusAccess.Proofs.Uri.Numeral

/-!
# The language of connection strings for an adapter

A connection string for an adapter has to name it, by the numbers of its vendor and of its product:
`mpsse://`, one to four hexadecimal digits, a colon, one to four hexadecimal digits, and then a
slash or nothing (`Identity.Sentence`).  Leading zeros are digits like others, so a product can be
written in several ways, but no string is a sentence for two adapters.

The scanner takes all digits that come next, however many, and puts into a buffer what fits there.
It would read a part of a number if it did not compare the two: a buffer of four bytes keeps all
digits just if there are no more than four of them (`kept_eq_some_iff`).  Four digits are what goes
into 16 bits (`spells_lt`), which is why the number that is stored is the one that was written.

No adapter is opened but for a sentence, and then it is the one that is named
(`opens_named_adapter`).  What comes of a request is listed in `Opening`.
-/

set_option autoImplicit false

namespace BusAccess.Adapter

open Program (Trace calls requests)
open Uri (Cursor IsDigit Pattern Scan Spells isDigitOf lowerDigits upperDigits)

/-! ## Numbers -/

section Numbers

variable {c : Char} {cs ds passed : List Char} {n : UInt16}

/-- The digits that the scanner looks for are those of radix 16, in capitals or not. -/
theorem mem_hexDigits_iff : c ∈ "0123456789abcdefABCDEF".toList ↔ isDigitOf 16 c = true := by
  have hdigits : ("0123456789abcdefABCDEF".toList.all fun c ↦ isDigitOf 16 c) = true := by decide
  have hlower : lowerDigits.take 16 ⊆ "0123456789abcdefABCDEF".toList := by decide
  have hupper : upperDigits.take 16 ⊆ "0123456789abcdefABCDEF".toList := by decide
  constructor
  · exact List.all_eq_true.1 hdigits c
  · intro h
    obtain ⟨d, hd, hc | hc⟩ := Uri.isDigitOf_iff.1 h
    · exact hlower (List.mem_of_getElem? ((List.getElem?_take_of_lt hd).trans hc))
    · exact hupper (List.mem_of_getElem? ((List.getElem?_take_of_lt hd).trans hc))

/-- A hexadecimal digit is one byte. -/
theorem utf8Size_of_isDigitOf (h : isDigitOf 16 c = true) : c.utf8Size = 1 := by
  have hsizes : ("0123456789abcdefABCDEF".toList.all fun c ↦ c.utf8Size == 1) = true := by decide
  exact beq_iff_eq.1 (List.all_eq_true.1 hsizes c (mem_hexDigits_iff.2 h))

namespace Identity

/-- Whether a text is a number of an adapter: one to four hexadecimal digits that spell it. -/
structure IsNumber (ds : List Char) (n : UInt16) : Prop where
  /-- The digits spell the number. -/
  spells : Spells 16 ds n.toNat
  /-- There are at most four of them. -/
  length_le : ds.length ≤ 4

/-- The piece of hexadecimal digits goes up to where none comes next. -/
theorem matched_hexDigits_eq_iff :
    (Pattern.among "0123456789abcdefABCDEF").matched (ds ++ cs) = ds ↔
      (∀ c ∈ ds, isDigitOf 16 c = true) ∧ ∀ c ∈ cs.head?, isDigitOf 16 c = false := by
  rw [Pattern.matched, Uri.takeWhile_append_eq_iff]
  simp only [List.contains_eq_mem, decide_eq_true_eq, decide_eq_false_iff_not, mem_hexDigits_iff,
    Bool.not_eq_true]

/-- The number that is stored for up to four digits is the one that they spell. -/
theorem isNumber_of_spells {m : Nat} (hlength : ds.length ≤ digitsCapacity)
    (hspells : Spells 16 ds m) : m < UInt16.size ∧ IsNumber ds (UInt16.ofNat m) := by
  have hlt : m < UInt16.size :=
    lt_of_lt_of_le (Uri.spells_lt (by decide) hspells) (Nat.pow_le_pow_right (by decide) hlength)
  exact ⟨hlt, by rwa [UInt16.toNat_ofNat_of_lt' hlt], hlength⟩

/-- **What the buffer keeps is read** if there are no more than four digits, and else refused: the
buffer has fewer bytes than there are digits then. -/
theorem kept_eq_some_iff (hdigits : ∀ c ∈ ds, isDigitOf 16 c = true) {m : Nat} :
    (∃ kept, Uri.keep? digitsCapacity ds = some kept ∧
        Uri.wordOfDigits? UInt16.size 16 kept = some m) ∧ ds ≠ [] ↔
      Spells 16 ds m ∧ ds.length ≤ digitsCapacity := by
  simp only [Uri.keep?_eq_some_iff fun c hc ↦ utf8Size_of_isDigitOf (hdigits c hc)]
  constructor
  · rintro ⟨⟨_, ⟨hlength, rfl⟩, hm⟩, hne⟩
    have hspells := Uri.spells_iff.2 ⟨hne, hdigits, rfl⟩
    rw [Uri.wordOfDigits?_of_spells hspells, if_pos (isNumber_of_spells hlength hspells).1] at hm
    obtain rfl := Option.some.inj hm
    exact ⟨hspells, hlength⟩
  · rintro ⟨hspells, hlength⟩
    refine ⟨⟨ds, ⟨hlength, rfl⟩, ?_⟩, (Uri.spells_iff.1 hspells).1⟩
    rw [Uri.wordOfDigits?_of_spells hspells, if_pos (isNumber_of_spells hlength hspells).1]

/-- **The scanner reads a number** where there is one that does not go on, and nothing else. -/
theorem number_bind_eq_ok {α : Type} {k : UInt16 → Scan Error α} {r : α × Cursor} :
    (number >>= k) ⟨passed, some cs⟩ = .ok r ↔
      ∃ ds n rest, cs = ds ++ rest ∧ IsNumber ds n ∧ (∀ c ∈ rest.head?, isDigitOf 16 c = false) ∧
        k n ⟨passed ++ ds, some rest⟩ = .ok r := by
  rw [number, bind_assoc, Scan.take_bind_eq_ok]
  constructor
  · rintro ⟨rest, hrest, h⟩
    generalize hds : (Pattern.among "0123456789abcdefABCDEF").matched cs = ds at hrest h
    obtain ⟨hdigits, hnext⟩ := matched_hexDigits_eq_iff.1 (hrest ▸ hds)
    simp only [bind_assoc, Scan.demand_bind_eq_ok, Scan.require_bind_eq_ok, pure_bind] at h
    obtain ⟨hne, kept, hkept, m, hm, h₁⟩ := h
    obtain ⟨hspells, hlength⟩ :=
      (kept_eq_some_iff hdigits).1 ⟨⟨kept, hkept, hm⟩, by simpa using hne⟩
    exact ⟨ds, _, rest, hrest, (isNumber_of_spells hlength hspells).2, hnext, h₁⟩
  · rintro ⟨ds, n, rest, rfl, hn, hnext, h⟩
    obtain ⟨hne, hdigits, -⟩ := Uri.spells_iff.1 hn.spells
    have hds := matched_hexDigits_eq_iff.2 ⟨hdigits, hnext⟩
    obtain ⟨⟨kept, hkept, hm⟩, -⟩ := (kept_eq_some_iff hdigits).2 ⟨hn.spells, hn.length_le⟩
    refine ⟨rest, by rw [hds], ?_⟩
    rw [hds]
    simp only [bind_assoc, Scan.demand_bind_eq_ok, Scan.require_bind_eq_ok, pure_bind]
    exact ⟨by simpa using hne, kept, hkept, _, hm, by rwa [UInt16.ofNat_toNat]⟩

end Identity

end Numbers

/-! ## The grammar -/

namespace Identity

/-- The connection strings for an adapter, and the adapter that they name. -/
inductive Sentence : List Char → Identity → Prop
  | bare {vendor product : List Char} {vid pid : UInt16} (hvendor : IsNumber vendor vid)
      (hproduct : IsNumber product pid) :
      Sentence ("mpsse://".toList ++ vendor ++ ":".toList ++ product) ⟨vid, pid⟩
  | closed {vendor product : List Char} {vid pid : UInt16} (hvendor : IsNumber vendor vid)
      (hproduct : IsNumber product pid) :
      Sentence ("mpsse://".toList ++ vendor ++ ":".toList ++ product ++ "/".toList) ⟨vid, pid⟩

variable {uri : String} {cs : List Char} {identity : Identity}

/-- A sentence has the parts that the scanner looks for. -/
theorem sentence_iff : Sentence cs identity ↔ ∃ vendor product last,
    cs = name.toList ++ ("://".toList ++ (vendor ++ (":".toList ++ (product ++ last)))) ∧
      IsNumber vendor identity.vid ∧ IsNumber product identity.pid ∧
      (last = [] ∨ last = "/".toList) := by
  constructor
  · intro h
    cases h with
    | @bare vendor product _ _ hvendor hproduct =>
      exact ⟨vendor, product, [], by simp [name], hvendor, hproduct, .inl rfl⟩
    | @closed vendor product _ _ hvendor hproduct =>
      exact ⟨vendor, product, _, by simp [name], hvendor, hproduct, .inr rfl⟩
  · rintro ⟨vendor, product, last, rfl, hvendor, hproduct, rfl | rfl⟩
    · simpa [name] using Sentence.bare hvendor hproduct
    · simpa [name] using Sentence.closed hvendor hproduct

/-- **The scanner reads sentences**, and nothing else. -/
theorem parse_eq_ok_iff : parse uri = .ok identity ↔ Sentence uri.toList identity := by
  rw [parse, Scan.parse_eq_ok, sentence_iff]
  constructor
  · rintro ⟨c, h⟩
    obtain ⟨cs₁, hu, h₁⟩ := (Scan.demand_literal_eq_ok (by decide)).1 h
    obtain ⟨cs₂, rfl, h₂⟩ := (Scan.demand_literal_eq_ok (by decide)).1 h₁
    obtain ⟨vendor, vid, cs₃, rfl, hvendor, -, h₃⟩ := number_bind_eq_ok.1 h₂
    obtain ⟨cs₄, rfl, h₄⟩ := (Scan.demand_literal_eq_ok (by decide)).1 h₃
    obtain ⟨product, pid, last, rfl, hproduct, -, h₅⟩ := number_bind_eq_ok.1 h₄
    rcases (Scan.literal_bind_eq_ok (by decide)).1 h₅ with ⟨rest, rfl, h₆⟩ | ⟨-, h₆⟩
    all_goals
      obtain ⟨_, c₁, hend, h₇⟩ := Scan.bind_eq_ok.1 h₆
      obtain ⟨rfl, -⟩ := Scan.finish_eq_ok.1 hend
      obtain ⟨rfl, -⟩ := Prod.mk.inj (Scan.pure_eq_ok.1 h₇)
    · exact ⟨vendor, product, _, hu, hvendor, hproduct, .inr (List.append_nil _)⟩
    · exact ⟨vendor, product, [], hu, hvendor, hproduct, .inl rfl⟩
  · rintro ⟨vendor, product, last, hu, hvendor, hproduct, hlast⟩
    have hcolon : ∀ c ∈ (":".toList ++ (product ++ last)).head?, isDigitOf 16 c = false := by
      rintro _ ⟨⟩
      decide
    have hslash : ∀ c ∈ last.head?, isDigitOf 16 c = false := by
      rcases hlast with rfl | rfl
      · exact nofun
      · rintro _ ⟨⟩
        decide
    rw [hu]
    refine ⟨⟨name.toList ++ "://".toList ++ vendor ++ ":".toList ++ product ++ last, some []⟩, ?_⟩
    refine (Scan.demand_literal_eq_ok (by decide)).2 ⟨_, rfl, ?_⟩
    refine (Scan.demand_literal_eq_ok (by decide)).2 ⟨_, rfl, ?_⟩
    refine number_bind_eq_ok.2 ⟨vendor, _, _, rfl, hvendor, hcolon, ?_⟩
    refine (Scan.demand_literal_eq_ok (by decide)).2 ⟨_, rfl, ?_⟩
    refine number_bind_eq_ok.2 ⟨product, _, last, rfl, hproduct, hslash, ?_⟩
    rcases hlast with rfl | rfl
    · have hmiss : ¬ "/".toList <+: [] := by decide
      refine (Scan.literal_bind_eq_ok (by decide)).2 (.inr ⟨hmiss, ?_⟩)
      rw [List.append_nil]
      rfl
    · exact (Scan.literal_bind_eq_ok (by decide)).2 (.inl ⟨[], rfl, rfl⟩)

theorem faults_number : Scan.Faults .invalidUri number :=
  .bind (.take _ _) fun _ ↦ .bind (.demand _ _) fun _ ↦ .bind (.require _ _) fun _ ↦
    .bind (.require _ _) fun _ ↦ .pure _ _

theorem faults_grammar : Scan.Faults .invalidUri grammar := by
  refine .bind (.literal _ _) fun named ↦ .bind (.demand _ named) fun _ ↦ ?_
  refine .bind (.literal _ _) fun slashes ↦ .bind (.demand _ slashes) fun _ ↦ ?_
  refine .bind faults_number fun vid ↦ ?_
  refine .bind (.literal _ _) fun colon ↦ .bind (.demand _ colon) fun _ ↦ ?_
  refine .bind faults_number fun pid ↦ ?_
  exact .bind (.literal _ _) fun _ ↦ .bind (.finish _) fun _ ↦ .pure _ _

/-- Every string that is no sentence is refused for the same reason. -/
theorem parse_of_not_sentence (h : ∀ identity, ¬ Sentence uri.toList identity) :
    parse uri = .error .invalidUri :=
  faults_grammar.parse fun identity hi ↦ h identity (parse_eq_ok_iff.1 hi)

end Identity

/-! ## Opening an adapter -/

open Identity (Sentence parse_eq_ok_iff parse_of_not_sentence)

/-- What is asked for a request for a bus, and what comes of it. -/
inductive Opening (params : I2c.Params) : Trace interface → Except Error (Bus Core) → Prop
  | unnamed (hu : params.uri = none) : Opening params [] (.error .noDevice)
  | misnamed {uri : String} (hu : params.uri = some uri)
      (hnone : ∀ identity, ¬ Sentence uri.toList identity) :
      Opening params [] (.error .invalidUri)
  | refused {uri : String} {identity : Identity} {e : Error} (hu : params.uri = some uri)
      (hi : Sentence uri.toList identity) :
      Opening params [.asked (.openAdapter identity params.freq true) (.error e)]
        (.error .backendFailure)
  /-- There is no memory for the bus. -/
  | outOfMemory {uri : String} {identity : Identity} (hu : params.uri = some uri)
      (hi : Sentence uri.toList identity) :
      Opening params [.asked (.openAdapter identity params.freq true) (.ok ()),
        .asked .reserve false, .asked .close ()] (.error .noMemory)
  | opened {uri : String} {identity : Identity} (hu : params.uri = some uri)
      (hi : Sentence uri.toList identity) :
      Opening params [.asked (.openAdapter identity params.freq true) (.ok ()),
        .asked .reserve true] (.ok (.new name { clock := params.freq }))

section Opening

variable {params : I2c.Params} {t asked : Trace interface} {r : Except Error (Bus Core)}

theorem opening_of_create (h : (create params).Runs t r) : Opening params (calls t) r := by
  rw [create] at h
  cases hu : params.uri with
  | none =>
    rw [hu] at h
    obtain ⟨u, rfl, h₁⟩ := Program.runs_report.1 h
    obtain ⟨rfl, rfl⟩ := Program.runs_done.1 h₁
    exact .unnamed hu
  | some uri =>
    rw [hu] at h
    by_cases hs : ∃ identity, Sentence uri.toList identity
    · obtain ⟨identity, hi⟩ := hs
      simp only [parse_eq_ok_iff.2 hi] at h
      obtain ⟨reply, u, rfl, h₁⟩ := Program.runs_ask.1 h
      cases reply with
      | ok _ =>
        obtain ⟨granted, v, rfl, h₂⟩ := Program.runs_ask.1 h₁
        cases granted with
        | true =>
          obtain ⟨w, rfl, h₃⟩ := Program.runs_report.1 h₂
          obtain ⟨rfl, rfl⟩ := Program.runs_done.1 h₃
          exact .opened hu hi
        | false =>
          obtain ⟨rfl, w, rfl, h₃⟩ := Bus.runs_outOfMemory.1 h₂
          obtain ⟨_, _, rfl, h₄⟩ := Program.runs_ask.1 h₃
          obtain ⟨rfl, -⟩ := Program.runs_done.1 h₄
          exact .outOfMemory hu hi
      | error e =>
        obtain ⟨v, rfl, h₂⟩ := Program.runs_report.1 h₁
        obtain ⟨rfl, rfl⟩ := Program.runs_done.1 h₂
        exact .refused hu hi
    · have hnone := not_exists.1 hs
      simp only [parse_of_not_sentence hnone] at h
      obtain ⟨rfl, rfl⟩ := Program.runs_done.1 h
      exact .misnamed hu hnone

/-- Everything that can come of a request does come of it, in some surroundings. -/
theorem create_of_opening (h : Opening params asked r) :
    ∃ t, (create params).Runs t r ∧ calls t = asked := by
  rw [create]
  cases h with
  | unnamed hu =>
    rw [hu]
    exact ⟨_, .report (.done _), rfl⟩
  | misnamed hu hnone =>
    simp only [hu, parse_of_not_sentence hnone]
    exact ⟨_, .done _, rfl⟩
  | @refused _ _ e hu hi =>
    simp only [hu, parse_eq_ok_iff.2 hi]
    exact ⟨[.asked (.openAdapter _ params.freq true) (.error e), .reported _],
      .ask (.report (.done _)), rfl⟩
  | outOfMemory hu hi =>
    simp only [hu, parse_eq_ok_iff.2 hi]
    exact ⟨[.asked (.openAdapter _ params.freq true) (.ok ()), .asked .reserve false, .reported _,
      .asked .close ()], .ask (.ask (.report (.ask (.done _)))), rfl⟩
  | opened hu hi =>
    simp only [hu, parse_eq_ok_iff.2 hi]
    exact ⟨[.asked (.openAdapter _ params.freq true) (.ok ()), .asked .reserve true, .reported _],
      .ask (.ask (.report (.done _))), rfl⟩

/-- Whether a request is one to open an adapter. -/
def Request.opens : Request → Bool
  | openAdapter _ _ _ => true
  | _ => false

/-- A sentence opens the adapter that it names, once and before anything else. -/
theorem Opening.requests_of_sentence (h : Opening params asked r) {uri : String}
    {identity : Identity} (hu : params.uri = some uri) (hi : Sentence uri.toList identity) :
    ∃ after, requests asked = .openAdapter identity params.freq true :: after ∧
      ∀ q ∈ after, q = .reserve ∨ q = .close := by
  have hsame {uri' : String} {identity' : Identity} (hu' : params.uri = some uri')
      (hi' : Sentence uri'.toList identity') : identity' = identity := by
    obtain rfl := Option.some.inj (hu.symm.trans hu')
    exact Except.ok.inj ((parse_eq_ok_iff.2 hi').symm.trans (parse_eq_ok_iff.2 hi))
  cases h with
  | unnamed hu' => exact absurd (hu.symm.trans hu') nofun
  | misnamed hu' hnone =>
    obtain rfl := Option.some.inj (hu.symm.trans hu')
    exact absurd hi (hnone identity)
  | refused hu' hi' =>
    obtain rfl := hsame hu' hi'
    exact ⟨[], rfl, nofun⟩
  | outOfMemory hu' hi' =>
    obtain rfl := hsame hu' hi'
    exact ⟨_, rfl, List.forall_mem_cons.2 ⟨.inl rfl, List.forall_mem_singleton.2 (.inr rfl)⟩⟩
  | opened hu' hi' =>
    obtain rfl := hsame hu' hi'
    exact ⟨_, rfl, List.forall_mem_singleton.2 (.inl rfl)⟩

/-- Without a sentence nothing is asked. -/
theorem Opening.requests_of_not_sentence (h : Opening params asked r)
    (hnone : ∀ uri identity, params.uri = some uri → ¬ Sentence uri.toList identity) :
    requests asked = [] := by
  cases h with
  | unnamed | misnamed => rfl
  | refused hu hi | outOfMemory hu hi | opened hu hi => exact absurd hi (hnone _ _ hu)

end Opening

/-- **The adapter that is named is opened**, and no other.  Without a connection string there is no
device, and a string that is no sentence is refused, both without a word to any adapter.  A sentence
makes one request to open an adapter, for the one that it names at the clock of the parameters, and a
failure of this request is one of the backend whatever it was.  If there is no memory for the bus
then, the adapter is closed again. -/
theorem opens_named_adapter (params : I2c.Params) :
    (∀ asked r, (∃ t, (create params).Runs t r ∧ calls t = asked) ↔ Opening params asked r) ∧
      ∀ t r, (create params).Runs t r →
        (∀ uri identity, params.uri = some uri → Sentence uri.toList identity →
          (requests t).filter Request.opens = [.openAdapter identity params.freq true]) ∧
        ((∀ uri identity, params.uri = some uri → ¬ Sentence uri.toList identity) →
          requests t = []) := by
  refine ⟨fun asked r ↦ ⟨?_, create_of_opening⟩, fun t r h ↦ ?_⟩
  · rintro ⟨t, h, rfl⟩
    exact opening_of_create h
  · rw [← Program.requests_calls]
    refine ⟨fun uri identity hu hi ↦ ?_, (opening_of_create h).requests_of_not_sentence⟩
    obtain ⟨after, hafter, hothers⟩ := (opening_of_create h).requests_of_sentence hu hi
    have hnone : after.filter Request.opens = [] := by
      refine List.filter_eq_nil_iff.2 fun q hq ↦ ?_
      obtain rfl | rfl := hothers q hq <;> exact Bool.false_ne_true
    rw [hafter, List.filter_cons_of_pos rfl, hnone]

/-- Three digits are enough for the vendor, a capital digit is the same as a small one, and a fifth
digit is too much. -/
theorem opens_named_adapter_short :
    (∃ t, (create { uri := some "mpsse://403:601A/" }).Runs t (.error .backendFailure) ∧
      calls t = [.asked (.openAdapter ⟨0x0403, 0x601a⟩ 400000 true) (.error .busy)]) ∧
    ∀ t r, (create { uri := some "mpsse://00403:601a" }).Runs t r → requests t = [] := by
  have hsentence : Sentence "mpsse://403:601A/".toList ⟨0x0403, 0x601a⟩ :=
    parse_eq_ok_iff.1 (by rfl)
  have hnone (identity : Identity) : ¬ Sentence "mpsse://00403:601a".toList identity := by
    rw [← parse_eq_ok_iff]
    exact nofun
  refine ⟨((opens_named_adapter _).1 _ _).2 (.refused rfl hsentence), fun t r h ↦ ?_⟩
  refine ((opens_named_adapter _).2 t r h).2 fun uri identity hu ↦ ?_
  obtain rfl := Option.some.inj hu
  exact hnone identity

end BusAccess.Adapter
