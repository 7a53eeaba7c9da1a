import BusAccess.Proofs.Node.Creation
import BusAccess.Proofs.Uri.BusNumber

/-!
# The language of connection strings for the machine itself

There is little to say in a connection string for a bus of the machine itself: the name, `://` or
not, and the number of the bus or not (`Sentence`).  No host is among it, so unlike a string for a
daemon it has no part that goes through a buffer, and the grammar is the language for text of any kind.

The scanner looks for a host all the same, since it has to refuse one.  It takes everything up to a
slash and demands that this is nothing.  So a slash comes next or the end
(`matched_until_slash_eq_nil_iff`), and no path begins in any other way.

Each kind of bus has a factory of its own, which goes on in its own way from a bus number, but all of
them read the number by the one grammar, and whatever else can go wrong is not put down to the string.
So they take the same strings (`factories_take_sentences`).
-/

set_option autoImplicit false

namespace BusAccess.Node

open Uri (BusPath Path Pattern Scan path_iff_busPath)

/-! ## The grammar -/

/-- The connection strings for a bus of the machine itself, and the bus that they name. -/
inductive Sentence : List Char → Option UInt32 → Prop
  | bare {path : List Char} {busnum : Option UInt32} (hpath : BusPath busnum path) :
      Sentence ("linuxdev".toList ++ path) busnum
  | rooted {path : List Char} {busnum : Option UInt32} (hpath : BusPath busnum path) :
      Sentence ("linuxdev".toList ++ ("://".toList ++ path)) busnum

section Strings

variable {uri : String} {cs : List Char} {n : Option UInt32}

/-- Nothing stands in front of the next slash if it comes at once, or if there is nothing at all. -/
theorem matched_until_slash_eq_nil_iff :
    (Pattern.until "/").matched cs = [] ↔ ∀ c ∈ cs.head?, c = '/' := by
  have hstop (c : Char) : (!"/".toList.contains c) = false ↔ c = '/' := by
    rw [show "/".toList = ['/'] from rfl]
    simp
  rw [Pattern.matched, ← List.nil_append cs, Uri.takeWhile_append_eq_iff]
  simp only [hstop, List.nil_append]
  exact and_iff_right (List.forall_mem_nil _)

/-- **The scanner reads sentences**, and nothing else. -/
theorem parse_eq_ok_iff : parse (some uri) = .ok n ↔ Sentence uri.toList n := by
  rw [parse, Scan.parse_eq_ok]
  constructor
  · rintro ⟨c, h⟩
    obtain ⟨cs, hu, h₁⟩ := (Scan.demand_literal_eq_ok (by decide)).1 h
    rw [hu]
    rcases (Scan.literal_bind_eq_ok (by decide)).1 h₁ with ⟨path, rfl, h₂⟩ | ⟨_, h₂⟩
    · obtain ⟨rest, hrest, h₃⟩ := Scan.take_bind_eq_ok.1 h₂
      obtain ⟨_, c₁, hd, h₄⟩ := Scan.bind_eq_ok.1 h₃
      obtain ⟨hempty, hc⟩ := Scan.demand_eq_ok.1 hd
      obtain ⟨-, rfl⟩ := Prod.mk.inj hc
      obtain rfl : path = rest := by
        rwa [List.isEmpty_iff.1 hempty, List.nil_append] at hrest
      obtain ⟨m, hm, hr⟩ := Scan.path_eq_ok.1 h₄
      obtain ⟨rfl, -⟩ := Prod.mk.inj hr
      exact .rooted (path_iff_busPath.1 hm)
    · obtain ⟨m, hm, hr⟩ := Scan.path_eq_ok.1 h₂
      obtain ⟨rfl, -⟩ := Prod.mk.inj hr
      exact .bare (path_iff_busPath.1 hm)
  · intro h
    generalize uri.toList = cs at h
    cases h with
    | @bare path _ hpath =>
      have hn : Path n path := path_iff_busPath.2 hpath
      refine ⟨⟨name.toList ++ path, some []⟩, ?_⟩
      refine (Scan.demand_literal_eq_ok (by decide)).2 ⟨path, rfl, ?_⟩
      refine (Scan.literal_bind_eq_ok (by decide)).2 (.inr ⟨?_, Scan.path_eq_ok.2 ⟨n, hn, rfl⟩⟩)
      rintro ⟨rest, rfl⟩
      exact absurd (hn.head? ':' rfl) (by decide)
    | @rooted path _ hpath =>
      have hn : Path n path := path_iff_busPath.2 hpath
      have hnothing : (Pattern.until "/").matched path = [] :=
        matched_until_slash_eq_nil_iff.2 hn.head?
      refine ⟨⟨name.toList ++ "://".toList ++ path, some []⟩, ?_⟩
      refine (Scan.demand_literal_eq_ok (by decide)).2 ⟨"://".toList ++ path, rfl, ?_⟩
      refine (Scan.literal_bind_eq_ok (by decide)).2 (.inl ⟨path, rfl, ?_⟩)
      refine Scan.take_bind_eq_ok.2 ⟨path, by rw [hnothing, List.nil_append], ?_⟩
      rw [hnothing]
      exact Scan.bind_eq_ok.2
        ⟨(), _, Scan.demand_eq_ok.2 ⟨rfl, rfl⟩, Scan.path_eq_ok.2 ⟨n, hn, rfl⟩⟩

theorem faults_grammar : Scan.Faults .invalidUri grammar := by
  refine .bind (.literal _ _) fun named ↦ .bind (.demand _ named) fun _ ↦
    .bind (.literal _ _) fun hasAuthority ↦ ?_
  have hrest : Scan.Faults Error.invalidUri (do
      let busnum ← Scan.busNumberPath .invalidUri
      Scan.finish .invalidUri
      return busnum) :=
    .bind (.busNumberPath _) fun n ↦ .bind (.finish _) fun _ ↦ .pure _ n
  cases hasAuthority with
  | false => exact hrest
  | true => exact .bind (.take _ _) fun host ↦ .bind (.demand _ _) fun _ ↦ hrest

/-- Every string that is no sentence is refused for the same reason. -/
theorem parse_eq_error_iff :
    parse (some uri) = .error .invalidUri ↔ ∀ n, ¬ Sentence uri.toList n := by
  constructor
  · intro h n hn
    rw [parse_eq_ok_iff.2 hn] at h
    exact absurd h nofun
  · intro h
    exact faults_grammar.parse fun n hn ↦ h n (parse_eq_ok_iff.1 hn)

end Strings

/-! ## The factories -/

/-- Whether a request is taken if it may be, and only then.  If it may be, nothing that can come of it
is a refusal of its connection string, and otherwise this is all that comes of it. -/
structure TakenIf {α : Type} (may : Prop) (p : Program interface (Except Error α)) : Prop where
  /-- If it may be, the connection string is not refused, whatever comes of it. -/
  taken : may → ∀ t, ¬ p.Runs t (.error .invalidUri)
  /-- If it may not be, nothing is asked of anybody. -/
  refused : ¬ may → p = .done (.error .invalidUri)

/-- A request that goes by what is read in its string is taken if the string is a sentence. -/
theorem takenIf_of_parse {α : Type} {uri : String} {p : Program interface (Except Error α)}
    (hok : ∀ n, parse (some uri) = .ok n → ∀ t, ¬ p.Runs t (.error .invalidUri))
    (herror : ∀ e, parse (some uri) = .error e → p = .done (.error e)) :
    TakenIf (∃ n, Sentence uri.toList n) p where
  taken := fun ⟨n, hn⟩ ↦ hok n (parse_eq_ok_iff.2 hn)
  refused := fun h ↦ herror _ (parse_eq_error_iff.2 (not_exists.1 h))

section Factories

variable {uri : String} {roots : Roots}

theorem I2c.takes_sentences {params : BusAccess.I2c.Params} (hu : params.uri = some uri) :
    TakenIf (∃ n, Sentence uri.toList n) (create roots params) := by
  refine takenIf_of_parse (fun n hn t h ↦ ?_) fun e he ↦ ?_
  · cases making_of_create (by rw [chooseBus, hu, hn]; rfl) h
  · exact create_of_error (by rw [chooseBus, hu, he]; rfl)

theorem Spi.takes_sentences {params : BusAccess.Spi.Params} (hu : params.uri = some uri) :
    TakenIf (∃ n, Sentence uri.toList n) (create roots params) := by
  refine takenIf_of_parse (fun n hn t h ↦ ?_) fun e he ↦ ?_
  · cases making_of_create (by rw [chooseBus, hu, hn]; rfl) h
  · exact create_of_error (by rw [chooseBus, hu, he]; rfl)

theorem Gpio.takes_sentences {params : BusAccess.Gpio.Params} (hu : params.uri = some uri) :
    TakenIf (∃ n, Sentence uri.toList n) (create roots params) := by
  refine takenIf_of_parse (fun n hn t h ↦ ?_) fun e he ↦ ?_
  · cases making_of_create (by rw [hu, hn]) h
  · exact create_of_error (by rw [hu, he])

end Factories

/-- **The language of the backends.**  A string is read for the bus that it names as a sentence, and
every other string is refused; the factories of the three kinds of bus take the same strings. -/
theorem factories_take_sentences (uri : String) :
    (∀ n, parse (some uri) = .ok n ↔ Sentence uri.toList n) ∧
      (parse (some uri) = .error .invalidUri ↔ ∀ n, ¬ Sentence uri.toList n) ∧
      ∀ (roots : Roots) (i : BusAccess.I2c.Params) (s : BusAccess.Spi.Params)
        (g : BusAccess.Gpio.Params),
        TakenIf (∃ n, Sentence uri.toList n) (I2c.create roots { i with uri := some uri }) ∧
          TakenIf (∃ n, Sentence uri.toList n) (Spi.create roots { s with uri := some uri }) ∧
          TakenIf (∃ n, Sentence uri.toList n) (Gpio.create roots { g with uri := some uri }) :=
  ⟨fun _ ↦ parse_eq_ok_iff, parse_eq_error_iff, fun _ _ _ _ ↦
    ⟨I2c.takes_sentences rfl, Spi.takes_sentences rfl, Gpio.takes_sentences rfl⟩⟩

/-- Zero may have a sign, and a host may not be there even if a number follows. -/
theorem factories_take_sentences_without_host :
    Sentence "linuxdev:///\t-00".toList (some 0) ∧
      ∀ roots, Spi.create roots { uri := some "linuxdev://host/1" } = .done (.error .invalidUri) := by
  have hsentence : Sentence "linuxdev:///\t-00".toList (some 0) :=
    ((factories_take_sentences "linuxdev:///\t-00").1 _).1 (by rfl)
  obtain ⟨-, herror, htaken⟩ := factories_take_sentences "linuxdev://host/1"
  have hnone : ∀ n, ¬ Sentence "linuxdev://host/1".toList n := herror.1 (by rfl)
  exact ⟨hsentence, fun roots ↦ (htaken roots {} {} {}).2.1.refused (not_exists.2 hnone)⟩

end BusAccess.Node
