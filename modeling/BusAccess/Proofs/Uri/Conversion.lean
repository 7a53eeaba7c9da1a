import BusAccess.Proofs.Uri.Numeral

/-!
# The conversion of the C standard

Reading an integer is meant to be what `strtol` of the C standard does, which is a rule about the
bytes of a text.  First there is white space, and all of it is passed over.  Then there is the longest
piece that is an integer of the base, if there is any, and this is converted.  If there is none then
nothing is converted, and not even the white space counts (`Conversion`).  So the rule has two longest
prefixes in it, and what is converted is determined by them (`Conversion.unique`).

The reader finds the second of them: what it takes behind blanks is the longest integer there
(`isLongestPrefix_read`).  It does not always find the first.  The white space of the standard has
six characters, and the reader knows five of them as blanks.  At a vertical tab it stops as at any
other character, and takes nothing, even if more white space and an integer come behind.  This is the
only difference (`conversion_of_space`): where no vertical tab stands in the white space at the
beginning, and where nothing is converted, reader and standard agree in the value and in how far the
text is read (`integer_converts_or_stops`).
-/

set_option autoImplicit false

namespace BusAccess.Uri

variable {base : Nat} {v : Int} {sign : Sign} {space rest text subject cs : List Char}
  {found found' : Numeral}

/-! ## The standard -/

/-- The white space of the standard. -/
def IsSpace (c : Char) : Prop := c ∈ [' ', '\t', '\n', '\x0b', '\x0c', '\r']

instance (c : Char) : Decidable (IsSpace c) :=
  inferInstanceAs (Decidable (c ∈ [' ', '\t', '\n', '\x0b', '\x0c', '\r']))

/-- It is the blanks and the vertical tab. -/
theorem isSpace_iff {c : Char} : IsSpace c ↔ IsBlank c ∨ c = '\x0b' := by
  simp only [IsSpace, IsBlank, List.mem_cons, List.not_mem_nil, or_false]
  tauto

/-- The texts that are integers of a base, with their values. -/
inductive Written (base : Nat) : Int → List Char → Prop
  | intro (sign : Sign) {mark ds : List Char} {radix m : Nat} (hm : Marked base mark ds radix)
      (hd : Spells radix ds m) : Written base (sign.apply m) (sign.text ++ (mark ++ ds))

/-- What the standard converts a text to, and how much of the text is converted.  A value that has
no room in 64 bits is clamped. -/
inductive Conversion (base : Nat) (text : List Char) : Numeral → Prop
  | made {space subject rest : List Char} {v : Int} (htext : text = space ++ rest)
      (hspace : IsLongestPrefix (fun cs ↦ ∀ c ∈ cs, IsSpace c) space text)
      (hsubject : IsLongestPrefix (fun cs ↦ ∃ v, Written base v cs) subject rest)
      (hv : Written base v subject) :
      Conversion base text ⟨space.length + subject.length, clamp v⟩
  | nothing {space rest : List Char} (htext : text = space ++ rest)
      (hspace : IsLongestPrefix (fun cs ↦ ∀ c ∈ cs, IsSpace c) space text)
      (hnone : ∀ subject, subject <+: rest → ∀ v, ¬ Written base v subject) :
      Conversion base text ⟨0, 0⟩

/-- An integer has one value, once it is clamped. -/
theorem Written.clamp_eq {v' : Int} (h : Written base v subject) (h' : Written base v' subject) :
    clamp v = clamp v' := by
  have hread {v : Int} (h : Written base v subject) :
      (readInteger base subject).value = clamp v := by
    cases h with
    | intro sign hm hd =>
      have hparts := readInteger_of_parts (List.forall_mem_nil IsBlank) sign hm hd .nil
      rw [List.nil_append, List.append_nil] at hparts
      rw [hparts]
  rw [← hread h, ← hread h']

/-- **A text is converted in one way.** -/
theorem Conversion.unique (h : Conversion base text found) (h' : Conversion base text found') :
    found = found' := by
  cases h with
  | @made space subject rest v htext hspace hsubject hv =>
    cases h' with
    | @made space' subject' rest' v' htext' hspace' hsubject' hv' =>
      obtain rfl := hspace.unique hspace'
      obtain rfl := List.append_cancel_left (htext.symm.trans htext')
      obtain rfl := hsubject.unique hsubject'
      rw [hv.clamp_eq hv']
    | nothing htext' hspace' hnone =>
      obtain rfl := hspace.unique hspace'
      obtain rfl := List.append_cancel_left (htext.symm.trans htext')
      exact absurd hv (hnone _ hsubject.isPrefix _)
  | nothing htext hspace hnone =>
    cases h' with
    | made htext' hspace' hsubject hv =>
      obtain rfl := hspace.unique hspace'
      obtain rfl := List.append_cancel_left (htext.symm.trans htext')
      exact absurd hv (hnone _ hsubject.isPrefix _)
    | nothing => rfl

/-! ## What is read behind the white space -/

/-- **What is read goes as far** as any integer at the beginning does. -/
theorem digitsOf_of_written (hbare : sign = .none → Bare cs) (hp : subject <+: sign.text ++ cs)
    (hw : Written base v subject) :
    digitsOf base cs ≠ [] ∧ subject.length ≤
      sign.text.length + ((chooseBase base cs).2 + (digitsOf base cs).length) := by
  obtain ⟨sign', hm, hd⟩ := hw
  obtain ⟨t, ht⟩ := hp
  simp only [List.append_assoc] at ht
  obtain rfl := sign_unique (fun _ ↦ bare_of_marked hm hd) hbare ht
  have hcs := List.append_cancel_left ht
  rw [← List.append_assoc] at hcs
  obtain ⟨hne, hle⟩ := length_le_of_marked hm hd ⟨t, hcs⟩
  rw [List.length_append]
  exact ⟨hne, by omega⟩

/-- **What is read is the longest integer** at the beginning, if anything is read. -/
theorem isLongestPrefix_read (hbase : base = 0 ∨ 2 ≤ base ∧ base ≤ 36)
    (hbare : sign = .none → Bare cs) (hne : digitsOf base cs ≠ []) :
    ∃ subject, Written base
        (sign.apply (natOfDigits (chooseBase base cs).1 (digitsOf base cs))) subject ∧
      subject.length = sign.text.length + ((chooseBase base cs).2 + (digitsOf base cs).length) ∧
      IsLongestPrefix (fun cs ↦ ∃ v, Written base v cs) subject (sign.text ++ cs) := by
  obtain ⟨hm, hd⟩ := marked_chooseBase hbase hne
  obtain ⟨t, ht⟩ := List.takeWhile_prefix (l := cs.drop (chooseBase base cs).2)
    (isDigitOf (chooseBase base cs).1)
  rw [← digitsOf] at ht
  have hw := Written.intro sign hm hd
  have hprefix : sign.text ++ (cs.take (chooseBase base cs).2 ++ digitsOf base cs) <+:
      sign.text ++ cs := by
    refine ⟨t, ?_⟩
    rw [List.append_assoc, List.append_assoc, ht, List.take_append_drop]
  have hlen : (cs.take (chooseBase base cs).2).length = (chooseBase base cs).2 := by
    have hle := add_length_takeWhile_le hne
    rw [List.length_take]
    omega
  refine ⟨_, hw, by simp only [List.length_append, hlen], hprefix, ⟨_, hw⟩, ?_⟩
  rintro ds hds ⟨v, hv⟩
  have hle := (digitsOf_of_written hbare hds hv).2
  simp only [List.length_append, hlen]
  omega

/-- Behind white space, the standard converts what is read there, and the white space counts if
anything is read. -/
theorem conversion_of_space (hbase : base = 0 ∨ 2 ≤ base ∧ base ≤ 36)
    (hspace : ∀ c ∈ space, IsSpace c) (hrest : ∀ c ∈ rest.head?, ¬ IsSpace c) :
    Conversion base (space ++ rest)
      (if (readInteger base rest).length = 0 then ⟨0, 0⟩
        else ⟨space.length + (readInteger base rest).length, (readInteger base rest).value⟩) := by
  have hlongest : IsLongestPrefix (fun cs ↦ ∀ c ∈ cs, IsSpace c) space (space ++ rest) := by
    have h := isLongestPrefix_takeWhile (q := IsSpace) (fun _ ↦ decide_eq_true_iff) (space ++ rest)
    rwa [takeWhile_append_eq_iff.2 ⟨by simpa using hspace, by simpa using hrest⟩] at h
  have hblank : ∀ c ∈ rest.head?, ¬ IsBlank c :=
    fun c hc hb ↦ hrest c hc (isSpace_iff.2 (.inl hb))
  obtain ⟨sign, cs, rfl, hbare⟩ := exists_sign hblank
  have hread : readInteger base ([] ++ (sign.text ++ cs)) = _ := readInteger_append nofun hbare
  rw [List.nil_append, List.length_nil, Nat.zero_add] at hread
  by_cases hne : digitsOf base cs = []
  · rw [hread, if_pos hne, if_pos rfl]
    exact .nothing rfl hlongest fun subject hp v hw ↦ (digitsOf_of_written hbare hp hw).1 hne
  · obtain ⟨subject, hw, hlen, hsubject⟩ := isLongestPrefix_read hbase hbare hne
    have hpos := List.length_pos_iff.2 hne
    rw [hread, if_neg hne, if_neg (by simp only; omega), Nat.add_assoc, ← hlen]
    exact .made rfl hlongest hsubject hw

/-! ## White space and blanks -/

/-- Whether there is a vertical tab in the white space at the beginning of a text. -/
def TabAhead (text : List Char) : Prop :=
  ∃ space rest, text = space ++ '\x0b' :: rest ∧ ∀ c ∈ space, IsSpace c

/-- Blanks count if anything is read behind them. -/
theorem readInteger_blanks (hblanks : ∀ c ∈ space, IsBlank c)
    (hrest : ∀ c ∈ rest.head?, ¬ IsBlank c) :
    readInteger base (space ++ rest) =
      if (readInteger base rest).length = 0 then ⟨0, 0⟩
      else ⟨space.length + (readInteger base rest).length, (readInteger base rest).value⟩ := by
  obtain ⟨sign, cs, rfl, hbare⟩ := exists_sign hrest
  have hread : readInteger base ([] ++ (sign.text ++ cs)) = _ :=
    readInteger_append (List.forall_mem_nil IsBlank) hbare
  rw [List.nil_append, List.length_nil, Nat.zero_add] at hread
  rw [readInteger_append hblanks hbare, hread]
  by_cases hne : digitsOf base cs = []
  · rw [if_pos hne, if_pos hne, if_pos rfl]
  · have hpos := List.length_pos_iff.2 hne
    rw [if_neg hne, if_neg hne, if_neg (by simp only; omega)]
    simp only [Nat.add_assoc]

/-- **Nothing is read at a vertical tab**, nor in front of it. -/
theorem readInteger_of_tabAhead (h : TabAhead text) : readInteger base text = ⟨0, 0⟩ := by
  obtain ⟨space, rest, rfl, hspace⟩ := h
  -- The first vertical tab is the one that has only blanks before it.
  obtain ⟨blanks, more, hfirst, hnot⟩ : ∃ blanks more,
      space ++ ['\x0b'] = blanks ++ '\x0b' :: more ∧ '\x0b' ∉ blanks :=
    List.eq_append_cons_of_mem (by simp)
  have hblanks : ∀ c ∈ blanks, IsBlank c := by
    intro c hc
    have hmem : c ∈ space ++ ['\x0b'] := by
      rw [hfirst]
      exact List.mem_append_left _ hc
    have hne : c ≠ '\x0b' := fun heq ↦ hnot (heq ▸ hc)
    rcases List.mem_append.1 hmem with hc | hc
    · exact (isSpace_iff.1 (hspace c hc)).resolve_right hne
    · exact absurd (List.mem_singleton.1 hc) hne
  have hbare : Sign.none = .none → Bare ('\x0b' :: (more ++ rest)) := by
    rintro - _ ⟨⟩
    exact ⟨by simp [IsBlank], by decide, by decide⟩
  have htext : space ++ '\x0b' :: rest = blanks ++ (Sign.none.text ++ '\x0b' :: (more ++ rest)) := by
    rw [List.append_cons, hfirst]
    simp [Sign.text]
  have hnone : digitsOf base ('\x0b' :: (more ++ rest)) = [] := by
    refine digitsOf_eq_nil ?_
    rintro _ ⟨⟩
    exact isDigitOf_eq_false_iff.1 rfl
  rw [htext, readInteger_append hblanks hbare, if_pos hnone]

/-- **The standard and what is read.**  A text is converted in one way.  What is read is the same,
unless there is a vertical tab in the white space at the beginning. -/
theorem exists_conversion (hbase : base = 0 ∨ 2 ≤ base ∧ base ≤ 36) (text : List Char) :
    ∃ found, Conversion base text found ∧ (found.length = 0 → found = ⟨0, 0⟩) ∧
      (¬ TabAhead text → readInteger base text = found) := by
  obtain ⟨space, rest, rfl, hall, hhead⟩ := exists_split IsSpace text
  refine ⟨_, conversion_of_space hbase hall hhead, ?_, fun htab ↦ ?_⟩
  · split
    · exact fun _ ↦ rfl
    · intro hzero
      simp only at hzero
      omega
  · refine readInteger_blanks (fun c hc ↦ ?_) fun c hc hb ↦ hhead c hc (isSpace_iff.2 (.inl hb))
    refine (isSpace_iff.1 (hall c hc)).resolve_right ?_
    rintro rfl
    obtain ⟨before, after, rfl⟩ := List.append_of_mem hc
    exact htab ⟨before, after ++ rest, by simp, fun c hc ↦ hall c (by simp [hc])⟩

/-! ## Readers -/

namespace Reader

/-- Wherever calls have left a reader, it is at a place in its source. -/
theorem exists_place (source : String) (xs : List Call) :
    ∃ (answers : List Answer) (r : Reader) (passed left : List Char),
      (ofSource (some source)).calls xs = some (answers, r) ∧ r.Shows ⟨passed, some left⟩ := by
  obtain ⟨r, hcalls, hr⟩ := calls_of_shows (shows_ofSource (some source)) xs
  obtain ⟨pieces, left, -, hend, -⟩ := Cursor.calls_parts [] source.toList xs
  refine ⟨_, r, [] ++ pieces.flatten, left, hcalls, ?_⟩
  rw [← hend]
  exact hr

/-- **A reader converts as the standard does, or stops at a vertical tab.**  From wherever it has come
to, it takes as many bytes for an integer of the same value, if the white space there has no vertical
tab in it or if the standard converts nothing.  Otherwise it takes nothing. -/
theorem integer_converts_or_stops (source : String) (xs : List Call)
    (hbase : base = 0 ∨ 2 ≤ base ∧ base ≤ 36) {flags : Flags} (hf : flags.bits &&& 0x10 = 0) :
    ∃ (answers : List Answer) (r : Reader) (left : List Char) (found : Numeral),
      (ofSource (some source)).calls xs = some (answers, r) ∧ r.rest? = some left ∧
      (∀ found', Conversion base (bytewise left) found' ↔ found' = found) ∧
      (¬ TabAhead (bytewise left) ∨ found.length = 0 → r.integer base flags =
        some (.ok found, { r with position := r.position + found.length })) ∧
      (TabAhead (bytewise left) → r.integer base flags = some (.ok ⟨0, 0⟩, r)) := by
  obtain ⟨answers, r, passed, left, hcalls, hshows⟩ := exists_place source xs
  have hrest := rest?_of_shows hshows
  have hread : readInteger base left = readInteger base (bytewise left) :=
    ((alike_bytewise left).readInteger base).symm
  have hinteger := integer_eq hshows.1 hbase hrest flags
  rw [hread, advance, Flags.preserves_eq_false_iff.2 hf, if_neg Bool.false_ne_true] at hinteger
  obtain ⟨found, hfound, hzero, hagree⟩ := exists_conversion hbase (bytewise left)
  have hstop (htab : TabAhead (bytewise left)) : r.integer base flags = some (.ok ⟨0, 0⟩, r) := by
    rw [hinteger, readInteger_of_tabAhead htab]
    rfl
  refine ⟨answers, r, left, found, hcalls, hrest, fun found' ↦ ⟨fun h ↦ h.unique hfound, ?_⟩, ?_,
    hstop⟩
  · rintro rfl
    exact hfound
  · intro h
    by_cases htab : TabAhead (bytewise left)
    · have hnothing := hzero (h.resolve_left (not_not.2 htab))
      rw [hstop htab, hnothing]
      rfl
    · rw [hinteger, hagree htab]

/-- A hexadecimal integer in the open base, which the standard converts up to a letter. -/
theorem integer_converts_or_stops_hexadecimal :
    let r : Reader := ⟨some "n=\t0x1fz", 2⟩
    Conversion 0 (bytewise "\t0x1fz".toList) ⟨5, 31⟩ ∧
      r.integer 0 {} = some (.ok ⟨5, 31⟩, { r with position := 7 }) := by
  intro r
  obtain ⟨answers, r', left, found, hcalls, hleft, hfound, hagree, -⟩ :=
    integer_converts_or_stops "n=\t0x1fz" [.scan (.literal "n=") {} none] (.inl rfl)
      (show ({} : Flags).bits &&& 0x10 = 0 from rfl)
  have hplace : (ofSource (some "n=\t0x1fz")).calls [.scan (.literal "n=") {} none] =
      some ([.scanned (.ok 2) none], r) := by rfl
  obtain ⟨-, rfl⟩ := Prod.mk.inj (Option.some.inj (hplace.symm.trans hcalls))
  obtain rfl : "\t0x1fz".toList = left := Option.some.inj hleft
  have hread : r.integer 0 {} = some (.ok ⟨5, 31⟩, { r with position := 7 }) := by rfl
  have htab : ¬ TabAhead (bytewise "\t0x1fz".toList) := by
    rintro ⟨space, rest, htext, -⟩
    have hmem : '\x0b' ∈ bytewise "\t0x1fz".toList := by
      rw [htext]
      exact List.mem_append_right _ List.mem_cons_self
    exact absurd hmem (by decide)
  have hsame := hread.symm.trans (hagree (.inl htab))
  obtain ⟨hok, -⟩ := Prod.mk.inj (Option.some.inj hsame)
  exact ⟨(hfound _).2 (Except.ok.inj hok), hread⟩

/-- The standard converts what stands behind a vertical tab, and the reader does not. -/
theorem integer_stops_at_vertical_tab :
    let r := ofSource (some "\x0b12")
    r.rest? = some "\x0b12".toList ∧ Conversion 10 (bytewise "\x0b12".toList) ⟨3, 12⟩ ∧
      r.integer 10 {} = some (.ok ⟨0, 0⟩, r) := by
  intro r
  refine ⟨rfl, ?_, rfl⟩
  have hspace : ∀ c ∈ ['\x0b'], IsSpace c := List.forall_mem_singleton.2 (by decide)
  have hrest : ∀ c ∈ ['1', '2'].head?, ¬ IsSpace c := by
    rintro _ ⟨⟩
    decide
  exact conversion_of_space (.inr (by decide)) hspace hrest

end Reader

end BusAccess.Uri
