import BusAccess.Json.Reader
import BusAccess.Json.Writer
import BusAccess.Proofs.Uri.Numeral

/-!
# What is written is read back

A document is written without separators, and most of it is read back by going through the same cases.
Three things need an argument.  A string is written character by character, each as itself or as one of
three kinds of escape, so it is enough that every escape is read as one element (`readElements?_escape`).
A number has no end of its own: it ends where something follows that no number goes on with, which is
what `Delimited` says, and wherever a value stands in a document a comma or a closing bracket follows.
And the reader carries a bound.  It uses up at most one for every character, so the length of what is
written is enough of a bound (`ReadBack`); what it starts with is twice that.

Not everything can be written.  A string without text has no text to be written, and a number other than
an integer is kept as somebody wrote it, which need not be how numbers are written.  Of the other documents
those are called `Plain` whose integers are words, and it is told with them how deeply they are nested; for
all of these `read?_write` is the main result.
-/

set_option autoImplicit false

namespace BusAccess.Json

variable {cs rest : List Char} {v : Value} {bound level : Nat}

/-- The documents that are written without loss, and that are nested at most so many times: every string
has a text, and so has every name, and there are no numbers but integers of 64 bits. -/
inductive Plain : Nat → Value → Prop
  | null {level : Nat} : Plain level .null
  | boolean {level : Nat} (b : Bool) : Plain level (.boolean b)
  | integer {level : Nat} {n : Int} (hlow : -2 ^ 63 ≤ n) (hhigh : n < 2 ^ 64) :
      Plain level (.integer n)
  | string {level : Nat} (s : String) : Plain level (.string (some s))
  | array {level : Nat} {items : List Value} (h : ∀ v ∈ items, Plain level v) :
      Plain (level + 1) (.array items)
  | object {level : Nat} {members : List (Option String × Value)} (hnames : ∀ m ∈ members, m.1 ≠ none)
      (h : ∀ m ∈ members, Plain level m.2) : Plain (level + 1) (.object members)

/-! ## Strings -/

theorem hexValue?_hexDigit : ∀ n < 16, hexValue? (hexDigit n) = some n := by decide

theorem one_le_length_escape (c : Char) : 1 ≤ (escape c).length := by
  unfold escape
  split_ifs <;> simp

/-- The four digits of a control character are read as the character. -/
theorem readEscape?_control {c : Char} (hc : c.toNat < 0x20) :
    readEscape? ('0' :: '0' :: hexDigit (c.toNat / 16) :: hexDigit (c.toNat % 16) :: rest) =
      some (some c, rest) := by
  have hhigh := hexValue?_hexDigit (c.toNat / 16) (by omega)
  have hlow := hexValue?_hexDigit (c.toNat % 16) (by omega)
  have hzero : hexValue? '0' = some 0 := by decide
  have hvalue : ((0 * 16 + 0) * 16 + c.toNat / 16) * 16 + c.toNat % 16 = c.toNat := by omega
  have hunit : readUnit?
      ('0' :: '0' :: hexDigit (c.toNat / 16) :: hexDigit (c.toNat % 16) :: rest) =
        some (c.toNat, rest) := by
    simp only [readUnit?, hzero, hhigh, hlow, Option.bind_eq_bind, Option.bind_some, hvalue]
    rfl
  -- It is far from the halves of surrogate pairs.
  rw [readEscape?, hunit]
  simp only [Option.bind_eq_bind, Option.bind_some]
  rw [if_neg (by omega), if_neg (by omega), Char.ofNat_toNat]
  rfl

/-- **A character is read back** from how it is written in a string. -/
theorem readElements?_escape (c : Char) (acc : List Element) :
    readElements? (bound + 1) (escape c ++ rest) acc = readElements? bound rest (some c :: acc) := by
  rw [escape]
  split_ifs with hquote hbackslash hcontrol
  · subst hquote
    rfl
  · subst hbackslash
    rfl
  · simp only [List.cons_append, List.nil_append, readElements?, readEscape?_control hcontrol,
      Option.bind_eq_bind, Option.bind_some, Char.reduceEq, if_true, if_false]
  · simp only [List.cons_append, List.nil_append, readElements?, hquote, hbackslash, hcontrol,
      if_false]

/-- The elements of a string are read up to the quote behind it. -/
theorem readElements?_flatMap_escape {acc : List Element} (hbound : cs.length < bound) :
    readElements? bound (cs.flatMap escape ++ '"' :: rest) acc =
      some (acc.reverse ++ cs.map some, rest) := by
  induction cs generalizing bound acc with
  | nil =>
    obtain ⟨bound, rfl⟩ := Nat.exists_eq_succ_of_ne_zero (Nat.ne_zero_of_lt hbound)
    simp [readElements?]
  | cons c cs ih =>
    obtain ⟨bound, rfl⟩ := Nat.exists_eq_succ_of_ne_zero (Nat.ne_zero_of_lt hbound)
    rw [List.flatMap_cons, List.append_assoc, readElements?_escape,
      ih (Nat.lt_of_succ_lt_succ hbound)]
    simp

theorem length_le_length_flatMap_escape (cs : List Char) :
    cs.length ≤ (cs.flatMap escape).length := by
  induction cs with
  | nil => exact Nat.le_refl 0
  | cons c cs ih =>
    have hc := one_le_length_escape c
    simp only [List.flatMap_cons, List.length_append, List.length_cons]
    omega

/-- Characters make up a text. -/
theorem textOf_map_some (cs : List Char) : textOf (cs.map some) = some (String.ofList cs) := by
  have hall : (cs.map some).mapM id = some cs := by
    induction cs with
    | nil => rfl
    | cons c cs ih => simp [List.mapM_cons, ih]
  rw [textOf, hall]
  rfl

/-- **A text is read back** behind its opening quote. -/
theorem readString?_escape (s : String) :
    readString? (s.toList.flatMap escape ++ '"' :: rest) = some (some s, rest) := by
  have hlength := length_le_length_flatMap_escape s.toList
  rw [readString?, readElements?_flatMap_escape (by simp only [List.length_append]; omega)]
  simp [textOf_map_some]

/-! ## Numbers -/

/-- What can follow a value in a document. -/
def Delimited (rest : List Char) : Prop := ∀ c ∈ rest.head?, c = ',' ∨ c = ']' ∨ c = '\x7d'

theorem natOfDecimals_toDigits (n : Nat) : natOfDecimals (Nat.toDigits 10 n) = n := by
  have hfold : natOfDecimals (Nat.toDigits 10 n) = Nat.ofDigitChars 10 (Nat.toDigits 10 n) 0 := by
    simp only [natOfDecimals, Nat.ofDigitChars_eq_foldl, Nat.mul_comm 10]
    rfl
  rw [hfold, Nat.ofDigitChars_toDigits (by decide) (by decide)]

/-- No digit follows, nor anything else that goes on with a number. -/
theorem Delimited.ends (h : Delimited rest) : rest = [] ∨
    ∃ c cs, rest = c :: cs ∧ c.isDigit = false ∧ c ≠ '.' ∧ c ≠ 'e' ∧ c ≠ 'E' := by
  cases rest with
  | nil => exact .inl rfl
  | cons c cs =>
    refine .inr ⟨c, cs, rfl, ?_⟩
    rcases h c rfl with rfl | rfl | rfl <;> decide

/-- The digits of a number are read up to where it ends. -/
theorem readWhole?_toDigits (hrest : Delimited rest) (n : Nat) :
    readWhole? (Nat.toDigits 10 n ++ rest) = some (Nat.toDigits 10 n, rest) := by
  have hdigits (c : Char) (hc : c ∈ Nat.toDigits 10 n) : c.isDigit = true :=
    Nat.isDigit_of_mem_toDigits (by decide) (by decide) hc
  have htake : (Nat.toDigits 10 n ++ rest).takeWhile Char.isDigit = Nat.toDigits 10 n := by
    rcases hrest.ends with rfl | ⟨c, cs, rfl, hc, -⟩
    · rw [List.append_nil, List.takeWhile_eq_self_iff.2 hdigits]
    · exact Uri.takeWhile_isDigit_toDigits hc n
  have hdrop : (Nat.toDigits 10 n ++ rest).dropWhile Char.isDigit = rest := by
    rw [List.dropWhile_append_of_pos hdigits]
    rcases hrest.ends with rfl | ⟨c, cs, rfl, hc, -⟩
    · rfl
    · rw [List.dropWhile_cons_of_neg (by simp [hc])]
  have hwhole : ¬ ((Nat.toDigits 10 n).head? = some '0' ∧ (Nat.toDigits 10 n).length > 1) := by
    rintro ⟨hzero, hlength⟩
    by_cases hn : n = 0
    · subst hn
      exact absurd hlength (by decide)
    · exact Uri.head?_toDigits (by decide) (by decide) hn hzero
  rw [readWhole?, readDigits?, htake, hdrop, if_neg (by simp [Nat.toDigits_ne_nil])]
  simp only [Option.bind_eq_bind, Option.bind_some, if_neg hwhole]
  rfl

theorem readFraction?_of_delimited (hrest : Delimited rest) :
    readFraction? rest = some ([], rest) := by
  rcases hrest.ends with rfl | ⟨c, cs, rfl, -, hc, -⟩
  · rfl
  · rw [readFraction?]
    rintro cs' h
    exact hc (List.cons.inj h).1

theorem readExponent?_of_delimited (hrest : Delimited rest) :
    readExponent? rest = some ([], rest) := by
  rcases hrest.ends with rfl | ⟨c, cs, rfl, -, -, he, hE⟩
  · rfl
  · rw [readExponent?.eq_def]
    exact if_neg (not_or.2 ⟨he, hE⟩)

theorem readNumber?_toDigits (hrest : Delimited rest) (negative : Bool) (n : Nat)
    (hn : negative = true → n ≠ 0) :
    readNumber? negative (Nat.toDigits 10 n ++ rest) =
      some (.integer (if negative then -n else n), rest) := by
  rw [readNumber?, readWhole?_toDigits hrest]
  simp only [Option.bind_eq_bind, Option.bind_some, readFraction?_of_delimited hrest,
    readExponent?_of_delimited hrest, natOfDecimals_toDigits]
  rw [if_pos (by simpa using hn)]
  rfl

/-! ## Values -/

theorem skipSpace_cons {c : Char} (hc : isSpace c = false) : skipSpace (c :: cs) = c :: cs := by
  rw [skipSpace, List.dropWhile_cons_of_neg (by simp [hc])]

theorem isSpace_of_isDigit {c : Char} (hc : c.isDigit = true) : isSpace c = false := by
  rw [Bool.eq_false_iff]
  intro h
  simp only [isSpace, Bool.or_eq_true, beq_iff_eq] at h
  rcases h with ((rfl | rfl) | rfl) | rfl <;> exact absurd hc (by decide)

/-- A digit begins a number. -/
theorem readValue?_of_isDigit {c : Char} (hc : c.isDigit = true) :
    readValue? (bound + 1) (c :: cs) = readNumber? false (c :: cs) := by
  rw [readValue?.eq_def]
  simp only [skipSpace_cons (isSpace_of_isDigit hc)]
  split
  case h_1 h => exact absurd h nofun
  case h_9 => rfl
  all_goals
    rename_i h
    obtain ⟨rfl, -⟩ := List.cons.inj h
    exact absurd hc (by decide)

/-- There is a digit at the beginning of a number. -/
theorem exists_digit (n : Nat) : ∃ c cs, Nat.toDigits 10 n = c :: cs ∧ c.isDigit = true := by
  obtain ⟨c, cs, hcs⟩ := List.exists_cons_of_ne_nil (Nat.toDigits_ne_nil (n := n) (b := 10))
  refine ⟨c, cs, hcs, ?_⟩
  exact Nat.isDigit_of_mem_toDigits (by decide) (by decide) (hcs ▸ List.mem_cons_self)

/-- An integer is written with its digits, and a sign if it is negative. -/
theorem toList_write_integer (n : Int) : (write (.integer n)).toList =
    if n < 0 then '-' :: Nat.toDigits 10 n.natAbs else Nat.toDigits 10 n.natAbs := by
  cases n with
  | ofNat n =>
    rw [if_neg (by simp)]
    show (Nat.repr n).toList = _
    rw [Nat.toList_repr]
    rfl
  | negSucc n =>
    rw [if_pos (by simp)]
    show ("-" ++ Nat.repr n.succ).toList = _
    rw [String.toList_append, Nat.toList_repr]
    rfl

theorem toList_writeString (s : String) :
    (writeString s).toList = '"' :: (s.toList.flatMap escape ++ ['"']) := by
  rw [writeString, String.toList_ofList, List.cons_append]

theorem toList_write_array (items : List Value) : (write (.array items)).toList =
    '[' :: ((writeItems items).toList ++ [']']) := by
  rw [write, String.toList_append, String.toList_append]
  rfl

theorem toList_write_object (members : List (Option String × Value)) :
    (write (.object members)).toList =
      '\x7b' :: ((writeMembers members).toList ++ ['\x7d']) := by
  rw [write, String.toList_append, String.toList_append]
  rfl

theorem toList_writeItems_cons (v w : Value) (items : List Value) :
    (writeItems (v :: w :: items)).toList =
      (write v).toList ++ ',' :: (writeItems (w :: items)).toList := by
  rw [writeItems, String.toList_append, String.toList_append, List.append_assoc]
  rfl

theorem toList_writeMembers_singleton (n : String) (v : Value) :
    (writeMembers [(some n, v)]).toList =
      '"' :: (n.toList.flatMap escape ++ '"' :: ':' :: (write v).toList) := by
  rw [writeMembers, String.toList_append, String.toList_append, Option.getD_some,
    toList_writeString, List.append_assoc, List.cons_append, List.append_assoc]
  rfl

theorem toList_writeMembers_cons (n : String) (v : Value) (m : Option String × Value)
    (members : List (Option String × Value)) :
    (writeMembers ((some n, v) :: m :: members)).toList =
      '"' :: (n.toList.flatMap escape ++
        '"' :: ':' :: ((write v).toList ++ ',' :: (writeMembers (m :: members)).toList)) := by
  rw [writeMembers, String.toList_append, String.toList_append, String.toList_append,
    String.toList_append, Option.getD_some, toList_writeString]
  simp only [List.append_assoc, List.cons_append]
  rfl

/-- Nothing that is written begins with a separator or a closing bracket. -/
theorem exists_head_write (h : Plain level v) :
    ∃ c cs, (write v).toList = c :: cs ∧ isSpace c = false ∧ c ≠ ']' := by
  cases h with
  | null => exact ⟨'n', _, rfl, rfl, by decide⟩
  | boolean b =>
    cases b with
    | true => exact ⟨'t', _, rfl, rfl, by decide⟩
    | false => exact ⟨'f', _, rfl, rfl, by decide⟩
  | @integer _ n =>
    rw [toList_write_integer]
    split
    case isTrue => exact ⟨'-', _, rfl, rfl, by decide⟩
    case isFalse =>
      obtain ⟨c, cs, hcs, hc⟩ := exists_digit n.natAbs
      refine ⟨c, cs, hcs, isSpace_of_isDigit hc, ?_⟩
      rintro rfl
      exact absurd hc (by decide)
  | string s => exact ⟨'"', _, toList_writeString s, rfl, by decide⟩
  | array h => exact ⟨'[', _, toList_write_array _, rfl, by decide⟩
  | object hnames h => exact ⟨'\x7b', _, toList_write_object _, rfl, by decide⟩

theorem length_write_pos (h : Plain level v) : 0 < (write v).toList.length := by
  obtain ⟨_, _, hv, -⟩ := exists_head_write h
  rw [hv]
  exact Nat.succ_pos _

/-- Something is always written, so a bound on its length is not zero. -/
theorem exists_bound (h : Plain level v) (hbound : (write v).toList.length ≤ bound) :
    ∃ b, bound = b + 1 :=
  Nat.exists_eq_succ_of_ne_zero (Nat.ne_zero_of_lt (Nat.lt_of_lt_of_le (length_write_pos h) hbound))

theorem delimited_cons {c : Char} (hc : c = ',' ∨ c = ']' ∨ c = '\x7d') : Delimited (c :: rest) := by
  rintro _ ⟨⟩
  exact hc

/-- Whether a document is read back from what it is written as, with anything behind it. -/
def ReadBack (v : Value) : Prop := ∀ {bound : Nat} {rest : List Char},
  (write v).toList.length ≤ bound → Delimited rest →
    readValue? bound ((write v).toList ++ rest) = some (v, rest)

/-- **Items** are read back up to the closing bracket. -/
theorem readItems?_write {items : List Value} (hne : items ≠ [])
    (hplain : ∀ v ∈ items, Plain level v) (hread : ∀ v ∈ items, ReadBack v)
    (hbound : (writeItems items).toList.length < bound) :
    readItems? bound ((writeItems items).toList ++ ']' :: rest) = some (items, rest) := by
  induction items generalizing bound with
  | nil => exact absurd rfl hne
  | cons v items ih =>
    obtain ⟨bound, rfl⟩ := Nat.exists_eq_succ_of_ne_zero (Nat.ne_zero_of_lt hbound)
    cases items with
    | nil =>
      simp only [writeItems] at hbound ⊢
      rw [readItems?, hread v List.mem_cons_self (Nat.le_of_lt_succ hbound)
        (delimited_cons (.inr (.inl rfl)))]
      rfl
    | cons w items =>
      have hlength := length_write_pos (hplain v List.mem_cons_self)
      rw [toList_writeItems_cons, List.length_append, List.length_cons] at hbound
      rw [toList_writeItems_cons, List.append_assoc, List.cons_append, readItems?,
        hread v List.mem_cons_self (by omega) (delimited_cons (.inl rfl))]
      simp only [Option.bind_eq_bind, Option.bind_some, skipSpace_cons (c := ',') rfl]
      rw [ih (List.cons_ne_nil _ _) (fun x hx ↦ hplain x (List.mem_cons_of_mem _ hx))
        (fun x hx ↦ hread x (List.mem_cons_of_mem _ hx)) (by omega)]
      rfl

/-- A member is read from its name, and then from its value. -/
theorem readMembers?_of_name {n : String} : readMembers? (bound + 1)
      ('"' :: (n.toList.flatMap escape ++ '"' :: ':' :: cs)) =
    (readValue? bound cs).bind fun (value, rest) ↦ match skipSpace rest with
      | ',' :: rest => (readMembers? bound rest).bind fun (members, rest) ↦
        some ((some n, value) :: members, rest)
      | '\x7d' :: rest => some ([(some n, value)], rest)
      | _ => none := by
  rw [readMembers?, skipSpace_cons rfl]
  show (readString? _).bind _ = _
  rw [readString?_escape, Option.bind_some]
  simp only [skipSpace_cons (c := ':') rfl]
  rfl

/-- **Members** are read back up to the closing brace. -/
theorem readMembers?_write {members : List (Option String × Value)} (hne : members ≠ [])
    (hnames : ∀ m ∈ members, m.1 ≠ none) (hread : ∀ m ∈ members, ReadBack m.2)
    (hbound : (writeMembers members).toList.length < bound) :
    readMembers? bound ((writeMembers members).toList ++ '\x7d' :: rest) =
      some (members, rest) := by
  induction members generalizing bound with
  | nil => exact absurd rfl hne
  | cons m members ih =>
    obtain ⟨bound, rfl⟩ := Nat.exists_eq_succ_of_ne_zero (Nat.ne_zero_of_lt hbound)
    obtain ⟨name, v⟩ := m
    obtain ⟨n, rfl⟩ := Option.ne_none_iff_exists'.1 (hnames _ List.mem_cons_self)
    have hv : ReadBack v := hread _ List.mem_cons_self
    cases members with
    | nil =>
      simp only [toList_writeMembers_singleton, List.length_cons, List.length_append] at hbound
      simp only [toList_writeMembers_singleton, List.cons_append, List.append_assoc]
      rw [readMembers?_of_name, hv (by omega) (delimited_cons (.inr (.inr rfl)))]
      rfl
    | cons w members =>
      simp only [toList_writeMembers_cons, List.length_cons, List.length_append] at hbound
      simp only [toList_writeMembers_cons, List.cons_append, List.append_assoc]
      rw [readMembers?_of_name, hv (by omega) (delimited_cons (.inl rfl)), Option.bind_some]
      simp only [skipSpace_cons (c := ',') rfl]
      rw [ih (List.cons_ne_nil _ _) (fun x hx ↦ hnames x (List.mem_cons_of_mem _ hx))
        (fun x hx ↦ hread x (List.mem_cons_of_mem _ hx)) (by omega)]
      rfl

/-- A bracket with anything behind it but the closing one opens items. -/
theorem readValue?_bracket (hcs : skipSpace cs = cs) (hne : cs.head? ≠ some ']') :
    readValue? (bound + 1) ('[' :: cs) =
      (readItems? bound cs).bind fun (items, rest) ↦ some (.array items, rest) := by
  rw [readValue?, skipSpace_cons rfl]
  simp only [hcs]
  split
  case h_1 => exact absurd rfl hne
  case h_2 => rfl

/-- A brace with anything behind it but the closing one opens members. -/
theorem readValue?_brace (hcs : skipSpace cs = cs) (hne : cs.head? ≠ some '\x7d') :
    readValue? (bound + 1) ('\x7b' :: cs) =
      (readMembers? bound cs).bind fun (members, rest) ↦ some (.object members, rest) := by
  rw [readValue?, skipSpace_cons rfl]
  simp only [hcs]
  split
  case h_1 => exact absurd rfl hne
  case h_2 => rfl

/-- The first item is where the items begin. -/
theorem exists_toList_writeItems (v : Value) (items : List Value) :
    ∃ tail, (writeItems (v :: items)).toList = (write v).toList ++ tail := by
  cases items with
  | nil => exact ⟨[], by rw [writeItems, List.append_nil]⟩
  | cons w items => exact ⟨_, toList_writeItems_cons v w items⟩

theorem exists_toList_writeMembers {m : Option String × Value} (hname : m.1 ≠ none)
    (members : List (Option String × Value)) :
    ∃ tail, (writeMembers (m :: members)).toList = '"' :: tail := by
  obtain ⟨name, v⟩ := m
  obtain ⟨n, rfl⟩ := Option.ne_none_iff_exists'.1 hname
  cases members with
  | nil => exact ⟨_, toList_writeMembers_singleton n v⟩
  | cons w members => exact ⟨_, toList_writeMembers_cons n v w members⟩

/-- **Every plain document** is read back. -/
theorem readBack (h : Plain level v) : ReadBack v := by
  induction h with
  | @null level =>
    intro bound rest hbound hrest
    obtain ⟨bound, rfl⟩ := exists_bound (.null : Plain level _) hbound
    rfl
  | @boolean level b =>
    intro bound rest hbound hrest
    obtain ⟨bound, rfl⟩ := exists_bound (.boolean b : Plain level _) hbound
    cases b <;> rfl
  | @integer level n hlow hhigh =>
    intro bound rest hbound hrest
    obtain ⟨bound, rfl⟩ := exists_bound (.integer hlow hhigh : Plain level _) hbound
    rw [toList_write_integer]
    split
    case isTrue hn =>
      show readNumber? true (Nat.toDigits 10 n.natAbs ++ rest) = _
      rw [readNumber?_toDigits hrest true n.natAbs fun _ ↦ by omega, if_pos rfl]
      simp only [Option.some.injEq, Prod.mk.injEq, Value.integer.injEq, and_true]
      omega
    case isFalse hn =>
      obtain ⟨c, cs, hcs, hc⟩ := exists_digit n.natAbs
      rw [hcs, List.cons_append, readValue?_of_isDigit hc, ← List.cons_append, ← hcs,
        readNumber?_toDigits hrest false n.natAbs nofun, if_neg (by decide)]
      simp only [Option.some.injEq, Prod.mk.injEq, Value.integer.injEq, and_true]
      omega
  | @string level s =>
    intro bound rest hbound hrest
    obtain ⟨bound, rfl⟩ := exists_bound (.string s : Plain level _) hbound
    rw [write, Option.getD_some, toList_writeString, List.cons_append, List.append_assoc]
    show (readString? _).bind _ = _
    rw [List.singleton_append, readString?_escape]
    rfl
  | @array level items h ih =>
    intro bound rest hbound hrest
    obtain ⟨bound, rfl⟩ := exists_bound (.array h) hbound
    rw [toList_write_array] at hbound ⊢
    cases items with
    | nil => rfl
    | cons v items =>
      obtain ⟨c, cs, hv, hc, hne⟩ := exists_head_write (h v List.mem_cons_self)
      obtain ⟨tail, htail⟩ := exists_toList_writeItems v items
      have hread : readItems? bound ((writeItems (v :: items)).toList ++ ']' :: rest) =
          some (v :: items, rest) := by
        simp only [List.length_cons, List.length_append] at hbound
        exact readItems?_write (List.cons_ne_nil v items) h ih (by omega)
      rw [List.cons_append, List.append_assoc, List.singleton_append, readValue?_bracket, hread]
      · rfl
      · rw [htail, hv]
        exact skipSpace_cons hc
      · rw [htail, hv]
        exact fun h ↦ hne (Option.some.inj h)
  | @object level members hnames h ih =>
    intro bound rest hbound hrest
    obtain ⟨bound, rfl⟩ := exists_bound (.object hnames h) hbound
    rw [toList_write_object] at hbound ⊢
    cases members with
    | nil => rfl
    | cons m members =>
      obtain ⟨tail, htail⟩ := exists_toList_writeMembers (hnames m List.mem_cons_self) members
      have hread : readMembers? bound ((writeMembers (m :: members)).toList ++ '\x7d' :: rest) =
          some (m :: members, rest) := by
        simp only [List.length_cons, List.length_append] at hbound
        exact readMembers?_write (List.cons_ne_nil m members) hnames ih (by omega)
      rw [List.cons_append, List.append_assoc, List.singleton_append, readValue?_brace, hread]
      · rfl
      · rw [htail]
        exact skipSpace_cons rfl
      · rw [htail]
        exact fun h ↦ absurd (Option.some.inj h) (by decide)

/-- **What is written is read**, if it is plain. -/
theorem read?_write (h : Plain level v) : read? (write v) = some v := by
  have hread : readValue? (2 * (write v).toList.length + 2) ((write v).toList ++ []) =
      some (v, []) := readBack h (by omega) nofun
  rw [List.append_nil] at hread
  rw [read?, hread]
  rfl

end BusAccess.Json
