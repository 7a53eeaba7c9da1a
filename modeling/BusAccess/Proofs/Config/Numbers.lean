import BusAccess.Config
import BusAccess.Proofs.Trace
import BusAccess.Proofs.Uri.BusNumber
import BusAccess.Proofs.Uri.Conversion
import Mathlib.Logic.Function.Basic

/-!
# Numbers in variables

Three of the settings are numbers, and each is read from a variable of its own by the reader for
connection strings.  On the way from the variable to the setting a text passes four tests that know
nothing of each other.  It has to be more than blanks, in the sense of Unicode.  What stands at its
start has to be an integer, behind blanks in another sense.  This is clamped to 64 bits, and what comes
of that has to fit into 32.

Taken together they say less.  A setting is the integer that is written in its variable, if this is a
number of 32 bits, and otherwise it is left out (`busNumber?_eq_some_iff_holds`).  An integer that is
clamped does not fit before or after, and where an integer is written there is more than blanks.

Reading the settings comes down to a list of remarks, with a result that is known beforehand
(`ofLookup_eq`).  Nothing is asked, so it is the same in all surroundings.
-/

set_option autoImplicit false

namespace BusAccess

open Log (Event)
open Program (Trace)

/-! ## Programs that only report -/

namespace Program

variable {S : Interface} {α β : Type} {es fs : List Event} {a b : α}

/-- Reports some events and goes on. -/
def tell (es : List Event) (p : Program S α) : Program S α := es.foldr report p

theorem tell_append (p : Program S α) : tell (es ++ fs) p = tell es (tell fs p) :=
  List.foldr_append

theorem tell_bind (p : Program S α) (f : α → Program S β) :
    (tell es p).bind f = tell es (p.bind f) := by
  induction es with
  | nil => rfl
  | cons e es ih => exact congrArg (report e) ih

theorem runs_tell_done {t : Trace S} :
    (tell es (done a)).Runs t b ↔ t = es.map .reported ∧ b = a := by
  induction es generalizing t with
  | nil => exact runs_done
  | cons e es ih =>
    refine runs_report.trans ⟨?_, ?_⟩
    · rintro ⟨u, rfl, h⟩
      obtain ⟨rfl, rfl⟩ := ih.1 h
      exact ⟨rfl, rfl⟩
    · rintro ⟨rfl, rfl⟩
      exact ⟨_, rfl, ih.2 ⟨rfl, rfl⟩⟩

theorem outcome_tell_done : (tell es (done a)).outcome = (a, es) := by
  induction es with
  | nil => rfl
  | cons e es ih =>
    show ((tell es (done a)).outcome.1, e :: (tell es (done a)).outcome.2) = (a, e :: es)
    rw [ih]

end Program

/-! ## Integers at the start of a text -/

namespace Uri

variable {text : List Char} {v : Int} {n : UInt32}

/-- Whether an integer is written at the start of a text, in the open base: behind the blanks there,
it is the longest integer that there is. -/
inductive Holds (text : List Char) (v : Int) : Prop
  | intro {blanks rest subject : List Char} (htext : text = blanks ++ rest)
      (hblanks : ∀ c ∈ blanks, IsBlank c) (hrest : ∀ c ∈ rest.head?, ¬ IsBlank c)
      (hlongest : IsLongestPrefix (fun cs ↦ ∃ v, Written 0 v cs) subject rest)
      (hv : Written 0 v subject) : Holds text v

/-- **What is written is read**, and clamped. -/
theorem readInteger_of_holds (h : Holds text v) :
    (readInteger 0 text).length ≠ 0 ∧ (readInteger 0 text).value = clamp v := by
  obtain ⟨rfl, hblanks, hrest, hlongest, hv⟩ := h
  obtain ⟨sign, cs, rfl, hbare⟩ := exists_sign hrest
  obtain ⟨hne, -⟩ := digitsOf_of_written hbare hlongest.isPrefix hv
  obtain ⟨subject, hw, -, hsubject⟩ := isLongestPrefix_read (.inl rfl) hbare hne
  obtain rfl := hlongest.unique hsubject
  have hpos := List.length_pos_iff.2 hne
  rw [readInteger_append hblanks hbare, if_neg hne]
  exact ⟨by simp only; omega, hw.clamp_eq hv⟩

/-- **What is read is written.** -/
theorem exists_holds (h : (readInteger 0 text).length ≠ 0) : ∃ v, Holds text v := by
  obtain ⟨blanks, rest, rfl, hblanks, hrest⟩ := exists_split IsBlank text
  obtain ⟨sign, cs, rfl, hbare⟩ := exists_sign hrest
  rw [readInteger_append hblanks hbare] at h
  by_cases hne : digitsOf 0 cs = []
  · rw [if_pos hne] at h
    exact absurd rfl h
  · obtain ⟨subject, hw, -, hsubject⟩ := isLongestPrefix_read (.inl rfl) hbare hne
    exact ⟨_, rfl, hblanks, hrest, hsubject, hw⟩

/-- No digit is blank. -/
theorem not_isBlank_of_digit {radix d : Nat} {c : Char} (h : IsDigit radix c d) :
    Text.isBlank c = false := by
  have hall : (lowerDigits ++ upperDigits).all (fun c ↦ !Text.isBlank c) = true := by decide
  have hmem : c ∈ lowerDigits ++ upperDigits := by
    obtain hlower | hupper := h.2
    · exact List.mem_append_left _ (List.mem_of_getElem? hlower)
    · exact List.mem_append_right _ (List.mem_of_getElem? hupper)
  simpa using List.all_eq_true.1 hall c hmem

/-- Where an integer is written there is more than blanks. -/
theorem exists_not_isBlank_of_holds (h : Holds text v) : ∃ c ∈ text, Text.isBlank c = false := by
  obtain ⟨rfl, -, -, hlongest, hv⟩ := h
  cases hv with
  | @intro sign mark ds radix m hm hd =>
    obtain ⟨hne, hdigits, -⟩ := spells_iff.1 hd
    obtain ⟨c, ds, rfl⟩ := List.exists_cons_of_ne_nil hne
    obtain ⟨d, hdigit⟩ := isDigitOf_iff.1 (hdigits c List.mem_cons_self)
    have hmem := hlongest.isPrefix.subset (a := c) (by simp)
    exact ⟨c, List.mem_append_right _ hmem, not_isBlank_of_digit hdigit⟩

/-- A bus number is what is written there, whatever was clamped. -/
theorem busNumber_of_holds (h : Holds text v) : (readInteger 0 text).value = n.toNat ↔ v = n.toNat := by
  rw [(readInteger_of_holds h).2]
  refine ⟨eq_of_clamp_eq, ?_⟩
  rintro rfl
  exact clamp_busNumber n

/-- **Digits with their mark** are written at the start of what they are. -/
theorem Holds.of_marked {mark ds : List Char} {radix m : Nat} (hm : Marked 0 mark ds radix)
    (hd : Spells radix ds m) : Holds (mark ++ ds) m := by
  have hbare : Bare (mark ++ (ds ++ [])) := bare_of_marked hm hd
  rw [List.append_nil] at hbare
  have htext : mark ++ ds = [] ++ (mark ++ ds) := rfl
  have hwritten : Written 0 m (mark ++ ds) := .intro .none hm hd
  exact .intro htext (List.forall_mem_nil IsBlank) (fun c hc ↦ (hbare c hc).1)
    ⟨List.prefix_refl _, ⟨m, hwritten⟩, fun _ hds _ ↦ hds.length_le⟩ hwritten

end Uri

namespace Config

/-! ## Settings -/

/-- The settings that are numbers. -/
inductive NumberSetting where
  | i2cBusnum
  | spiBusnum
  | gpioChip
  deriving DecidableEq, Repr

namespace NumberSetting

/-- In the order in which they are read. -/
def all : List NumberSetting := [i2cBusnum, spiBusnum, gpioChip]

/-- The variable of a setting. -/
def key : NumberSetting → String
  | i2cBusnum => i2cBusnumVariable
  | spiBusnum => spiBusnumVariable
  | gpioChip => gpioChipVariable

/-- What a setting is in a configuration. -/
def value (c : Config) : NumberSetting → Option UInt32
  | i2cBusnum => c.i2cBusnum
  | spiBusnum => c.spiBusnum
  | gpioChip => c.gpioChip

end NumberSetting

/-- The settings that are texts. -/
inductive TextSetting where
  | backend
  | pigpiodAddr
  | pigpiodPort
  | log
  deriving DecidableEq, Repr

namespace TextSetting

def all : List TextSetting := [backend, pigpiodAddr, pigpiodPort, log]

/-- The variable of a setting. -/
def key : TextSetting → String
  | backend => backendVariable
  | pigpiodAddr => pigpiodAddrVariable
  | pigpiodPort => pigpiodPortVariable
  | log => logVariable

/-- What a setting is in a configuration. -/
def value (c : Config) : TextSetting → Option String
  | backend => c.backend
  | pigpiodAddr => c.pigpiodAddr
  | pigpiodPort => c.pigpiodPort
  | log => c.log

end TextSetting

variable {lookup : String → Option String} {x : NumberSetting} {n : UInt32} {key text : String}

/-- The configuration that is read from variables. -/
def loaded (lookup : String → Option String) : Config :=
  (ofLookup lookup : Program Program.silence Config).outcome.1

/-- What is reported while it is read. -/
def remarks (lookup : String → Option String) : List Event :=
  (ofLookup lookup : Program Program.silence Config).outcome.2

/-- What is reported of a variable that comes to a number or not. -/
def remark (lookup : String → Option String) (key : String) (found : Option UInt32) : List Event :=
  match lookup key with
  | none => []
  | some text =>
    if Text.allBlank text ∨ found.isSome then []
    else [.warn "ignoring malformed number" [("key", key), ("value", text)]]

/-! ## What is loaded -/

/-- The number in a variable. -/
def number? (lookup : String → Option String) (key : String) : Option UInt32 :=
  (setting lookup key).bind busNumber?

theorem setting_of_some (h : lookup key = some text) :
    setting lookup key = if Text.allBlank text then none else some text := by
  rw [setting, h, Option.filter_some]
  cases Text.allBlank text <;> rfl

theorem number_eq {S : Interface} (lookup : String → Option String) (key : String) :
    (number lookup key : Program S (Option UInt32)) =
      .tell (remark lookup key (number? lookup key)) (.done (number? lookup key)) := by
  cases hl : lookup key with
  | none =>
    have hsetting : setting lookup key = none := by rw [setting, hl, Option.filter_none]
    rw [number, number?, remark, hsetting, hl]
    rfl
  | some text =>
    have hsetting := setting_of_some hl
    rw [number, number?, remark, hl]
    cases hb : Text.allBlank text with
    | true =>
      rw [hb] at hsetting
      rw [hsetting]
      simp [Program.tell, hb]
    | false =>
      rw [hb] at hsetting
      rw [hsetting]
      cases hf : busNumber? text with
      | none => simp [Program.tell, hb, hf]
      | some n => simp [Program.tell, hf]

/-- **Reading the settings** is making remarks. -/
theorem ofLookup_eq {S : Interface} (lookup : String → Option String) :
    (ofLookup lookup : Program S Config) =
      .tell (NumberSetting.all.flatMap fun x ↦ remark lookup x.key (number? lookup x.key))
        (.done {
          backend := setting lookup backendVariable
          i2cBusnum := number? lookup i2cBusnumVariable
          spiBusnum := number? lookup spiBusnumVariable
          gpioChip := number? lookup gpioChipVariable
          pigpiodAddr := setting lookup pigpiodAddrVariable
          pigpiodPort := setting lookup pigpiodPortVariable
          log := setting lookup logVariable }) := by
  have hbind {α β : Type} (es : List Event) (a : α) (f : α → Program S β) :
      (Program.tell es (.done a) >>= f) = .tell es (f a) := Program.tell_bind (.done a) f
  rw [ofLookup, number_eq, number_eq, number_eq]
  simp only [hbind, NumberSetting.all, List.flatMap_cons, List.flatMap_nil, Program.tell_append]
  rfl

theorem value_loaded (lookup : String → Option String) (x : NumberSetting) :
    x.value (loaded lookup) = number? lookup x.key := by
  rw [loaded, ofLookup_eq, Program.outcome_tell_done]
  cases x <;> rfl

theorem text_loaded (lookup : String → Option String) (y : TextSetting) :
    y.value (loaded lookup) = setting lookup y.key := by
  rw [loaded, ofLookup_eq, Program.outcome_tell_done]
  cases y <;> rfl

theorem remarks_eq (lookup : String → Option String) :
    remarks lookup = NumberSetting.all.flatMap fun x ↦
      remark lookup x.key (x.value (loaded lookup)) := by
  simp only [value_loaded]
  rw [remarks, ofLookup_eq, Program.outcome_tell_done]

/-- Reading the settings has one run, in whatever surroundings. -/
theorem runs_ofLookup {S : Interface} {t : Trace S} {c : Config} :
    (ofLookup lookup).Runs t c ↔ t = (remarks lookup).map .reported ∧ c = loaded lookup := by
  rw [remarks, loaded, ofLookup_eq, ofLookup_eq, Program.outcome_tell_done]
  exact Program.runs_tell_done

/-! ## What numbers are loaded -/

theorem busNumber?_eq_some_iff :
    busNumber? text = some n ↔ (Uri.readInteger 0 text.toList).length ≠ 0 ∧
      (Uri.readInteger 0 text.toList).value = n.toNat := by
  rw [busNumber?]
  split
  case isTrue h => exact iff_of_false nofun fun hn ↦ hn.1 h
  case isFalse h => rw [Uri.toBusNumber?_eq_some_iff, and_iff_right h]

/-- The number of a text is what a reader at its start comes to, if it takes anything. -/
theorem busNumber?_eq_some_iff_reader :
    busNumber? text = some n ↔ ∃ found r,
      (Uri.Reader.ofSource (some text)).integer 0 {} = some (.ok found, r) ∧
        0 < found.length ∧ found.value = n.toNat := by
  have hrest : (Uri.Reader.ofSource (some text)).rest? = some text.toList :=
    Uri.Reader.rest?_of_shows (Uri.Reader.shows_ofSource (some text))
  have hread := Uri.Reader.integer_eq (r := .ofSource (some text)) rfl (.inl rfl) hrest {}
  rw [busNumber?_eq_some_iff, hread, ← Nat.pos_iff_ne_zero]
  constructor
  · intro h
    exact ⟨_, _, rfl, h⟩
  · rintro ⟨found, r, heq, h⟩
    obtain ⟨hfound, -⟩ := Prod.mk.inj (Option.some.inj heq)
    rwa [Except.ok.inj hfound]

/-- **The number of a text** is the integer that is written at its start. -/
theorem busNumber?_eq_some_iff_holds :
    busNumber? text = some n ↔ Uri.Holds text.toList n.toNat := by
  rw [busNumber?_eq_some_iff]
  constructor
  · rintro ⟨hread, hvalue⟩
    obtain ⟨v, hv⟩ := Uri.exists_holds hread
    rwa [(Uri.busNumber_of_holds hv).1 hvalue] at hv
  · intro h
    exact ⟨(Uri.readInteger_of_holds h).1, (Uri.busNumber_of_holds h).2 rfl⟩

theorem value_loaded_eq_some_iff :
    x.value (loaded lookup) = some n ↔
      ∃ text, lookup x.key = some text ∧ Text.allBlank text = false ∧ busNumber? text = some n := by
  rw [value_loaded, number?, Option.bind_eq_some_iff]
  simp only [setting, Option.filter_eq_some_iff, Bool.not_eq_true', and_assoc]

/-- An integer that is no bus number is refused. -/
theorem value_loaded_of_out_of_range {v : Int} (hl : lookup x.key = some text)
    (hv : Uri.Holds text.toList v) (hout : v < 0 ∨ UInt32.size ≤ v) :
    x.value (loaded lookup) = none := by
  rw [Option.eq_none_iff_forall_ne_some]
  intro n hn
  obtain ⟨text', hl', -, hnumber⟩ := value_loaded_eq_some_iff.1 hn
  obtain rfl := Option.some.inj (hl.symm.trans hl')
  have hvalue := (Uri.busNumber_of_holds hv).1 (busNumber?_eq_some_iff.1 hnumber).2
  have hlt := n.toNat_lt
  rw [UInt32.size] at hout
  omega

/-- The ways to print a number that are told apart by how they begin. -/
def spellings (n : UInt32) : List (List Char) :=
  [Nat.toDigits 10 n.toNat, '0' :: Nat.toDigits 8 n.toNat, '0' :: 'x' :: Nat.toDigits 16 n.toNat]

theorem holds_of_mem_spellings {cs : List Char} (h : cs ∈ spellings n) : Uri.Holds cs n.toNat := by
  simp only [spellings, List.mem_cons, List.not_mem_nil, or_false] at h
  obtain rfl | rfl | rfl := h
  case inl =>
    by_cases hn : n.toNat = 0
    · rw [hn, Nat.toDigits_zero]
      exact .of_marked (.octal rfl rfl) (Uri.spells_toDigits (by decide) (by decide) 0)
    · have hspells : Uri.Spells 10 _ _ := Uri.spells_toDigits (by decide) (by decide) n.toNat
      exact .of_marked (.decimal rfl (Uri.head?_toDigits (by decide) (by decide) hn)) hspells
  case inr.inl =>
    have hspells : Uri.Spells 8 _ _ := Uri.spells_toDigits (by decide) (by decide) n.toNat
    exact .of_marked (.octal rfl rfl) (hspells.zero_cons (by decide))
  case inr.inr =>
    have hspells : Uri.Spells 16 _ _ := Uri.spells_toDigits (by decide) (by decide) n.toNat
    exact .of_marked (.hexadecimal (.inl rfl) (.inl rfl)) hspells

theorem value_loaded_of_mem_spellings {cs : List Char} (hcs : cs ∈ spellings n)
    (hl : lookup x.key = some (.ofList cs)) : x.value (loaded lookup) = some n := by
  have hholds := holds_of_mem_spellings hcs
  obtain ⟨c, hc, hblank⟩ := Uri.exists_not_isBlank_of_holds hholds
  have hall : Text.allBlank (.ofList cs) = false := by
    rw [Text.allBlank, String.toList_ofList]
    exact List.all_eq_false.2 ⟨c, hc, Bool.not_eq_true _ ▸ hblank⟩
  refine value_loaded_eq_some_iff.2 ⟨_, hl, hall, busNumber?_eq_some_iff_holds.2 ?_⟩
  rwa [String.toList_ofList]

/-- The value of one variable does not matter to another. -/
theorem setting_update {key' : String} {v : Option String} (h : key ≠ key') :
    setting (Function.update lookup key' v) key = setting lookup key := by
  rw [setting, setting, Function.update_of_ne h]

/-- **Numbers are read from variables** like those of connection strings.  A setting is the integer at
the start of its variable, in the open base, if this is a bus number; blank variables and other
integers, however large, leave it out.  A variable that is not blank and leaves its setting out is
reported, once and in turn, and nothing else is.  No setting depends on the variable of another. -/
theorem numbers_loaded (lookup : String → Option String) :
    (∀ {S : Interface} {t : Trace S} {c : Config},
      (ofLookup lookup).Runs t c ↔ t = (remarks lookup).map .reported ∧ c = loaded lookup) ∧
    (∀ (x : NumberSetting) (n : UInt32), x.value (loaded lookup) = some n ↔
      ∃ text, lookup x.key = some text ∧ Text.allBlank text = false ∧
        ∃ found r, (Uri.Reader.ofSource (some text)).integer 0 {} = some (.ok found, r) ∧
          0 < found.length ∧ found.value = n.toNat) ∧
    (∀ (x : NumberSetting) (n : UInt32), x.value (loaded lookup) = some n ↔
      ∃ text, lookup x.key = some text ∧ Text.allBlank text = false ∧
        Uri.Holds text.toList n.toNat) ∧
    (∀ (x : NumberSetting) (text : String) (v : Int), lookup x.key = some text →
      Uri.Holds text.toList v → v < 0 ∨ UInt32.size ≤ v → x.value (loaded lookup) = none) ∧
    (∀ (x : NumberSetting) (n : UInt32), ∀ cs ∈ spellings n,
      lookup x.key = some (.ofList cs) → x.value (loaded lookup) = some n) ∧
    remarks lookup = NumberSetting.all.flatMap (fun x ↦
      remark lookup x.key (x.value (loaded lookup))) ∧
    (NumberSetting.all.map NumberSetting.key ++ TextSetting.all.map TextSetting.key).Nodup ∧
    ∀ (key : String) (v : Option String),
      (∀ x : NumberSetting, x.key ≠ key →
        x.value (loaded (Function.update lookup key v)) = x.value (loaded lookup)) ∧
      ∀ y : TextSetting, y.key ≠ key →
        y.value (loaded (Function.update lookup key v)) = y.value (loaded lookup) := by
  refine ⟨runs_ofLookup, fun x n ↦ ?_, fun x n ↦ ?_, fun x text v ↦ value_loaded_of_out_of_range,
    fun x n cs hcs hl ↦ ?_, remarks_eq lookup, ?_, fun key v ↦ ⟨fun x hx ↦ ?_, fun y hy ↦ ?_⟩⟩
  · simp only [value_loaded_eq_some_iff, busNumber?_eq_some_iff_reader]
  · simp only [value_loaded_eq_some_iff, busNumber?_eq_some_iff_holds]
  · exact value_loaded_of_mem_spellings hcs hl
  · decide
  · rw [value_loaded, value_loaded, number?, number?, setting_update hx]
  · rw [text_loaded, text_loaded, setting_update hy]

-- The blanks of the second variable are no blanks to the reader, and the third number is negative.
example :
    let lookup : String → Option String := fun key ↦
      [(i2cBusnumVariable, "\t0x10 bus"), (spiBusnumVariable, "\x0b7"), (gpioChipVariable, "-1")].lookup
        key
    loaded lookup = { i2cBusnum := some 16 } ∧
      (remarks lookup).map Event.fields = [[("key", spiBusnumVariable), ("value", "\x0b7")],
        [("key", gpioChipVariable), ("value", "-1")]] := by
  decide

end Config

end BusAccess
