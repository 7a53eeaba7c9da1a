import BusAccess.Log.Setup
import BusAccess.Proofs.Config.Numbers

/-!
# One setting, three ways to a filter

The setting for the log is in one variable, and there are three ways from there to a filter.  A
program can take the value and hand it over, it can load a configuration and hand that over, or it can
leave the variable to be found.  The first two try the names of levels before directives are read.
The third one has directives only.

So it comes down to the two vocabularies.  Whatever reads directives is only relied on for three kinds
of text (`ReadsDirectives`): blanks, words for levels, and words that are none.  A text that names no
level is read once and in the same way on all three ways, and a text that names one by the word that
it has in directives is read as that (`variable_eq`).  What is left are names that only settings have.
They name targets in directives, so the way on which nobody looks for a level takes the same word for
something else (`variable_of_alias`).
-/

set_option autoImplicit false

namespace BusAccess

/-! ## Words -/

namespace Text

variable {s w : String} {c : Char} {cs : List Char}

/-- The letters of ASCII. -/
def letters : List Char := "ABCDEFGHIJKLMNOPQRSTUVWXYZabcdefghijklmnopqrstuvwxyz".toList

theorem mem_letters (h : c.isAlpha = true) : c ∈ letters := by
  have hall : ∀ n < 128, (Char.ofNat n).isAlpha = true → Char.ofNat n ∈ letters := by decide
  have hlt : c.toNat < 128 := by
    delta Char.isAlpha Char.isUpper Char.isLower at h
    simp only [Bool.or_eq_true, Bool.and_eq_true, decide_eq_true_eq, UInt32.le_iff_toNat_le,
      ge_iff_le] at h
    rcases h with h | h
    · exact Nat.lt_of_le_of_lt h.2 (by decide)
    · exact Nat.lt_of_le_of_lt h.2 (by decide)
  rw [← Char.ofNat_toNat c] at h ⊢
  exact hall c.toNat hlt h

/-- Whether a text is a word of letters. -/
def IsWord (s : String) : Prop := s.toList ≠ [] ∧ s.toList.all Char.isAlpha = true

instance (s : String) : Decidable (IsWord s) := inferInstanceAs (Decidable (_ ∧ _))

/-- What is tested of all letters holds of those of a word. -/
theorem IsWord.test (h : IsWord s) (test : Char → Bool) (htest : letters.all test = true) :
    ∀ c ∈ s.toList, test c = true :=
  fun c hc ↦ List.all_eq_true.1 htest c (mem_letters (List.all_eq_true.1 h.2 c hc))

theorem isAlpha_of_toLower (h : c.toLower.isAlpha = true) : c.isAlpha = true := by
  by_cases hc : c.isUpper = true
  · delta Char.isAlpha
    rw [hc, Bool.true_or]
  · have hrange : ¬ (c.val ≥ 'A'.val ∧ c.val ≤ 'Z'.val) := fun hr ↦ hc (decide_eq_true hr)
    have hsame : c.toLower = c := dif_neg hrange
    rwa [hsame] at h

theorem toList_toLower (s : String) : s.toLower.toList = s.toList.map Char.toLower :=
  String.toList_map

theorem toLower_eq_iff : s.toLower = w ↔ s.toList.map Char.toLower = w.toList := by
  rw [← String.toList_inj, toList_toLower]

/-- What is a word in lower case is one. -/
theorem isWord_of_toLower (h : IsWord s.toLower) : IsWord s := by
  rw [IsWord, toList_toLower, ne_eq, List.map_eq_nil_iff, List.all_map] at h
  refine ⟨h.1, List.all_eq_true.2 fun c hc ↦ isAlpha_of_toLower ?_⟩
  exact List.all_eq_true.1 h.2 c hc

theorem trimChars_of_not_isBlank (h : ∀ c ∈ cs, isBlank c = false) : trimChars cs = cs := by
  have hfront {ds : List Char} (hds : ∀ c ∈ ds, isBlank c = false) : ds.dropWhile isBlank = ds :=
    List.dropWhile_eq_self_iff.2 fun _ ↦ by simp [hds]
  rw [trimChars, hfront h, hfront fun c hc ↦ h c (List.mem_reverse.1 hc), List.reverse_reverse]

theorem trimChars_of_isBlank (h : ∀ c ∈ cs, isBlank c = true) : trimChars cs = [] := by
  rw [trimChars, List.dropWhile_eq_nil_iff.2 h]
  rfl

/-- There is nothing to trim from a word. -/
theorem IsWord.trimChars_eq (h : IsWord s) : trimChars s.toList = s.toList := by
  have hblank := h.test (fun c ↦ !isBlank c) (by decide)
  exact trimChars_of_not_isBlank fun c hc ↦ by simpa using hblank c hc

end Text

namespace Log

open Text (IsWord)

variable {s : String} {t : Threshold} {l : Level}

/-! ## Reading directives -/

/-- What is relied on of whatever reads directives. -/
structure ReadsDirectives (read : String → Filter) : Prop where
  /-- Where there is no directive, it is the default one that applies. -/
  nothing : ∀ s, Text.allBlank s = true → read s = .ofList [Filter.default]
  /-- The word for a threshold, in either case, is a threshold for everything. -/
  threshold : ∀ (s : String) (t : Threshold), s.toLower = t.word → read s = .ofList [⟨none, t⟩]
  /-- Any other word is a target, from which everything is let pass. -/
  target : ∀ s, IsWord s → (∀ t : Threshold, s.toLower ≠ t.word) →
    read s = .ofList [⟨some s, some .verbose⟩]

theorem mem_all (t : Threshold) : t ∈ Threshold.all := by
  rcases t with _ | l
  · decide
  · cases l <;> decide

theorem isWord_word (t : Threshold) : IsWord t.word := by
  have hall : ∀ t ∈ Threshold.all, IsWord t.word := by decide
  exact hall t (mem_all t)

theorem toLower_word (t : Threshold) : t.word.toLower = t.word := by
  have hall : ∀ t ∈ Threshold.all, t.word.toList.map Char.toLower = t.word.toList := by decide
  exact Text.toLower_eq_iff.2 (hall t (mem_all t))

/-! ## Reading directives one by one -/

/-- A word is looked up among the words for thresholds. -/
theorem ofWord?_of_isWord (hs : IsWord s) :
    Threshold.ofWord? s = Threshold.all.find? fun t ↦ t.word == s.toLower := by
  obtain ⟨c, cs, hcs⟩ := List.exists_cons_of_ne_nil hs.1
  have hfirst : c ∈ s.toList := hcs ▸ List.mem_cons_self
  have hdigit := hs.test (fun c ↦ !c.isDigit) (by decide) c hfirst
  have hplus := hs.test (fun c ↦ c != '+') (by decide) c hfirst
  simp only [Bool.not_eq_true', bne_iff_ne] at hdigit hplus
  simp [Threshold.ofWord?, hcs, hdigit, hplus]

theorem ofWord?_eq_some (hs : IsWord s) (h : s.toLower = t.word) :
    Threshold.ofWord? s = some t := by
  have hall : ∀ t ∈ Threshold.all, Threshold.all.find? (fun u ↦ u.word == t.word) = some t := by
    decide
  rw [ofWord?_of_isWord hs, h]
  exact hall t (mem_all t)

theorem ofWord?_eq_none (hs : IsWord s) (h : ∀ t : Threshold, s.toLower ≠ t.word) :
    Threshold.ofWord? s = none := by
  rw [ofWord?_of_isWord hs, List.find?_eq_none]
  exact fun t _ ht ↦ h t (beq_iff_eq.1 ht).symm

/-- The directive that a word is. -/
def wordDirective (s : String) : Directive :=
  match Threshold.ofWord? s with
  | some t => ⟨none, t⟩
  | none => ⟨some s, some .verbose⟩

theorem ofString?_of_isWord (hs : IsWord s) : Directive.ofString? s = some (wordDirective s) := by
  have hcontains {d : Char} (hd : Text.letters.all (fun c ↦ c != d) = true) :
      s.toList.contains d = false := by
    rw [← Bool.not_eq_true, List.contains_iff_mem]
    exact fun hc ↦ bne_iff_ne.1 (hs.test _ hd d hc) rfl
  obtain ⟨c, cs, hcs⟩ := List.exists_cons_of_ne_nil hs.1
  have hbegin : Directive.canBegin c = true :=
    hs.test Directive.canBegin (by decide) c (hcs ▸ List.mem_cons_self)
  have hspan : s.toList.contains '[' = false := hcontains (by decide)
  have hequals : s.toList.contains '=' = false := hcontains (by decide)
  rw [Directive.ofString?, wordDirective]
  simp only [hs.trimChars_eq, hspan, hequals]
  rw [hcs]
  simp only [hbegin]
  cases Threshold.ofWord? s <;> rfl

/-- **A word is a filter** of one directive. -/
theorem ofDirectives_of_isWord (hs : IsWord s) :
    Filter.ofDirectives s = .ofList [wordDirective s] := by
  have hcomma := hs.test (fun c ↦ c != ',') (by decide)
  have hone : s.toList.splitOn ',' = [s.toList] :=
    List.splitOn_eq_singleton fun hc ↦ bne_iff_ne.1 (hcomma ',' hc) rfl
  have hparts : ([s.toList].filter fun part ↦ !part.isEmpty) = [s.toList] := by
    simp [hs.1]
  have hread : [s.toList].filterMap (fun part ↦ Directive.ofString? (.ofList part)) =
      [wordDirective s] := by
    simp [ofString?_of_isWord hs]
  rw [Filter.ofDirectives, hone]
  simp only [hparts, hread]
  exact congrArg Filter.ofList (if_neg Bool.false_ne_true)

theorem ofDirectives_of_allBlank (hs : Text.allBlank s = true) :
    Filter.ofDirectives s = .ofList [Filter.default] := by
  have hone : s.toList.splitOn ',' = [s.toList] :=
    List.splitOn_eq_singleton fun hc ↦ absurd (List.all_eq_true.1 hs _ hc) (by decide)
  have hnone : Directive.ofString? s = none := by
    rw [Directive.ofString?]
    simp only [Text.trimChars_of_isBlank (List.all_eq_true.1 hs)]
  have hread : ([s.toList].filter fun part ↦ !part.isEmpty).filterMap
      (fun part ↦ Directive.ofString? (.ofList part)) = [] := by
    cases s.toList.isEmpty <;> simp [hnone]
  rw [Filter.ofDirectives, hone]
  simp only [hread]
  rfl

/-- **Directives are read** as is relied on. -/
theorem readsDirectives_ofDirectives : ReadsDirectives Filter.ofDirectives where
  nothing s hs := ofDirectives_of_allBlank hs
  threshold s t h := by
    have hs : IsWord s := Text.isWord_of_toLower (h ▸ isWord_word t)
    rw [ofDirectives_of_isWord hs, wordDirective, ofWord?_eq_some hs h]
  target s hs h := by rw [ofDirectives_of_isWord hs, wordDirective, ofWord?_eq_none hs h]

theorem ofList_singleton_ne {d e : Directive} (h : d.target ≠ e.target) :
    Filter.ofList [d] ≠ .ofList [e] := by
  intro heq
  have hdirectives : [d] = [e] := congrArg Filter.directives heq
  exact h (congrArg Directive.target (List.cons.inj hdirectives).1)

/-! ## Names of levels -/

theorem ofSetting_of_allBlank (hs : Text.allBlank s = true) :
    Level.ofSetting s = .error .invalidArgument := by
  have hempty : (String.ofList []).toLower = "" := Text.toLower_eq_iff.2 rfl
  rw [Level.ofSetting, Text.trim, Text.trimChars_of_isBlank (List.all_eq_true.1 hs), hempty]
  rfl

theorem ofSetting_of_isWord (hs : IsWord s) :
    Level.ofSetting s = (Level.settings.lookup s.toLower).elim (.error .invalidArgument) .ok := by
  rw [Level.ofSetting, Text.trim, hs.trimChars_eq, String.ofList_toList]
  cases Level.settings.lookup s.toLower <;> rfl

/-- The words of directives name their levels. -/
theorem ofSetting_directive (l : Level) : Level.ofSetting l.directive = .ok l := by
  have hword : IsWord l.directive := isWord_word (some l)
  have hlower : l.directive.toLower = l.directive := toLower_word (some l)
  rw [ofSetting_of_isWord hword, hlower]
  cases l <;> rfl

/-- A word that names a level, but not as directives do, is no word for a threshold. -/
theorem ne_word_of_alias (hs : IsWord s) (hl : Level.ofSetting s = .ok l)
    (halias : s.toLower ≠ l.directive) (t : Threshold) : s.toLower ≠ t.word := by
  have hall : ∀ t ∈ Threshold.all, ∀ l ∈ Level.settings.lookup t.word, l.directive = t.word := by
    decide
  intro hword
  rw [ofSetting_of_isWord hs, hword] at hl
  cases hfound : Level.settings.lookup t.word with
  | none =>
    rw [hfound] at hl
    exact absurd hl nofun
  | some l' =>
    rw [hfound] at hl
    obtain rfl := Except.ok.inj hl
    exact halias (hword.trans (hall t (mem_all t) l' hfound).symm)

section Readers

variable {read : String → Filter} (hread : ReadsDirectives read)
  {environment : String → Option String}
include hread

/-- A setting that names a level is this level for everything. -/
theorem ofSetting_of_level (hl : Level.ofSetting s = .ok l) :
    Filter.ofSetting s read = .ofList [⟨none, some l⟩] := by
  rw [Filter.ofSetting, hl]
  exact hread.threshold l.directive (some l) (toLower_word (some l))

/-- A configuration that is loaded has the filter of its variable. -/
theorem configFilter_of_some (h : environment Config.logVariable = some s) :
    configFilter (Config.loaded environment) read = .ofSetting s read := by
  have hlog : (Config.loaded environment).log = Config.setting environment Config.logVariable :=
    Config.text_loaded environment .log
  rw [configFilter, hlog, Config.setting_of_some h]
  cases hs : Text.allBlank s with
  | false => rfl
  | true =>
    have hblank : Filter.ofSetting s read = .ofList [Filter.default] := by
      rw [Filter.ofSetting, ofSetting_of_allBlank hs]
      exact hread.nothing s hs
    rw [hblank]
    exact ofSetting_of_level hread (ofSetting_directive .info)

theorem configFilter_of_none (h : environment Config.logVariable = none) :
    configFilter (Config.loaded environment) read = .ofList [Filter.default] := by
  have hlog : (Config.loaded environment).log = Config.setting environment Config.logVariable :=
    Config.text_loaded environment .log
  rw [configFilter, hlog, Config.setting, h]
  exact ofSetting_of_level hread (ofSetting_directive .info)

/-- **The variable alone** is read like a setting, if this is no name that only settings have. -/
theorem variable_eq (h : environment Config.logVariable = some s)
    (hl : ∀ l, Level.ofSetting s = .ok l → s.toLower = l.directive) :
    chooseFilter none environment read = .ofSetting s read := by
  rw [chooseFilter, h]
  show read s = _
  cases hs : Level.ofSetting s with
  | ok l => rw [ofSetting_of_level hread hs, hread.threshold s (some l) (hl l hs)]
  | error e => rw [Filter.ofSetting, hs]

/-- **A name that only settings have** is a target to the variable alone. -/
theorem variable_of_alias (h : environment Config.logVariable = some s) (hs : IsWord s)
    (hl : Level.ofSetting s = .ok l) (halias : s.toLower ≠ l.directive) :
    chooseFilter none environment read = .ofList [⟨some s, some .verbose⟩] := by
  rw [chooseFilter, h]
  exact hread.target s hs (ne_word_of_alias hs hl halias)

end Readers

/-- **A setting is read in one way** on all ways, but for the names that only settings have.  A given
setting and a loaded configuration always agree.  The variable alone agrees with them if it is unset,
or if it names no level, or one by the word that directives have for it.  If it names a level
otherwise, it is read as directives all the same; a word is a target then, and the others have the
level. -/
theorem filters_agree {read : String → Filter} (hread : ReadsDirectives read)
    (environment : String → Option String) :
    (∀ s, environment Config.logVariable = some s → chooseFilter (some s) environment read =
      configFilter (Config.loaded environment) read) ∧
    ((∀ s l, environment Config.logVariable = some s → Level.ofSetting s = .ok l →
      s.toLower = l.directive) →
        chooseFilter none environment read = configFilter (Config.loaded environment) read) ∧
    ∀ s l, environment Config.logVariable = some s → Level.ofSetting s = .ok l →
      s.toLower ≠ l.directive →
        chooseFilter none environment read = read s ∧
        configFilter (Config.loaded environment) read = .ofList [⟨none, some l⟩] ∧
        (IsWord s → chooseFilter none environment read = .ofList [⟨some s, some .verbose⟩] ∧
          chooseFilter none environment read ≠ configFilter (Config.loaded environment) read) := by
  refine ⟨fun s hs ↦ (configFilter_of_some hread hs).symm, fun hnames ↦ ?_,
    fun s l hs hl halias ↦ ⟨?_, ?_, fun hword ↦ ?_⟩⟩
  · cases hs : environment Config.logVariable with
    | none =>
      rw [configFilter_of_none hread hs, chooseFilter, hs]
      exact hread.nothing "" rfl
    | some s => rw [configFilter_of_some hread hs, variable_eq hread hs fun l ↦ hnames s l hs]
  · rw [chooseFilter, hs]
    rfl
  · rw [configFilter_of_some hread hs, ofSetting_of_level hread hl]
  · have hvariable := variable_of_alias hread hs hword hl halias
    refine ⟨hvariable, ?_⟩
    rw [hvariable, configFilter_of_some hread hs, ofSetting_of_level hread hl]
    exact ofList_singleton_ne nofun

/-- The name of a level in another case, which is the same one in directives. -/
theorem filters_agree_debug :
    let environment : String → Option String := fun key ↦
      if key = Config.logVariable then some "Debug" else none
    chooseFilter none environment = configFilter (Config.loaded environment) ∧
      chooseFilter (some "Debug") environment = configFilter (Config.loaded environment) := by
  intro environment
  have hvalue : environment Config.logVariable = some "Debug" := if_pos rfl
  have hlower : "Debug".toLower = "debug" := Text.toLower_eq_iff.2 (by decide)
  obtain ⟨hgiven, halone, -⟩ := filters_agree readsDirectives_ofDirectives environment
  refine ⟨halone fun s l hs hl ↦ ?_, hgiven "Debug" hvalue⟩
  obtain rfl := Option.some.inj (hvalue.symm.trans hs)
  rw [ofSetting_of_isWord (by decide), hlower] at hl
  rw [hlower, ← Except.ok.inj hl]
  rfl

/-- A name that only settings have lets everything pass on two ways, and on the third one everything
from a target of this name. -/
theorem verbose_taken_for_target :
    let environment : String → Option String := fun key ↦
      if key = Config.logVariable then some "verbose" else none
    (chooseFilter none environment).text = "verbose=trace" ∧
      (chooseFilter (some "verbose") environment).text = "trace" ∧
      (configFilter (Config.loaded environment)).text = "trace" ∧
      chooseFilter none environment ≠ configFilter (Config.loaded environment) := by
  intro environment
  have hvalue : environment Config.logVariable = some "verbose" := if_pos rfl
  have hlower : "verbose".toLower = "verbose" := Text.toLower_eq_iff.2 (by decide)
  have hlevel : Level.ofSetting "verbose" = .ok .verbose := by
    rw [ofSetting_of_isWord (by decide), hlower]
    rfl
  have halias : "verbose".toLower ≠ Level.verbose.directive := by
    rw [hlower]
    decide
  have hread := readsDirectives_ofDirectives
  have halone := variable_of_alias hread hvalue (by decide) hlevel halias
  have hsetting := ofSetting_of_level hread hlevel
  have hconfig := (configFilter_of_some hread hvalue).trans hsetting
  have hgiven : chooseFilter (some "verbose") environment = _ := hsetting
  rw [halone, hgiven, hconfig]
  exact ⟨rfl, rfl, rfl, ofList_singleton_ne nofun⟩

end Log

end BusAccess
