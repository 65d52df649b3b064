import DiagnosticRepair.Proofs.Diagnostic.Grouping
import DiagnosticRepair.Proofs.Text.Reading
import DiagnosticRepair.Source.UnusedNames
import Mathlib.Logic.ExistsUnique

namespace DiagnosticRepair

namespace Remedy

variable {p : Char → Bool} {start text name other : Text} {stops : List Text}

/-- A text begins with a name between `start` and one of the `stops`. -/
def Quotes (p : Char → Bool) (start : Text) (stops : List Text) (text name : Text) : Prop :=
  name ≠ [] ∧ (∀ c ∈ name, p c = true) ∧ ∃ stop ∈ stops, start ++ name ++ stop <+: text

def QuotesFirst (p : Char → Bool) (start : Text) (stops : List Text) (text name : Text) : Prop :=
  ∃ before rest, text = before ++ rest ∧ Quotes p start stops rest name ∧
    ∀ earlier later, text = earlier ++ later → earlier.length < before.length →
      ∀ other, ¬ Quotes p start stops later other

theorem search_eq_some_iff {α : Type} {read? : Text → Option α} {found : α} :
    search read? text = some found ↔ ∃ before rest, text = before ++ rest ∧
      read? rest = some found ∧ ∀ earlier later, text = earlier ++ later →
        earlier.length < before.length → read? later = none := by
  induction text with
  | nil =>
      constructor
      · exact fun read => ⟨[], [], rfl, read, fun _ _ _ shorter => absurd shorter (Nat.not_lt_zero _)⟩
      · rintro ⟨before, rest, split, read, _⟩
        obtain ⟨rfl, rfl⟩ := List.append_eq_nil_iff.1 split.symm
        exact read
  | cons c text ih =>
      rw [search]
      cases here : read? (c :: text) with
      | some first =>
          constructor
          · rintro same
            cases same
            exact ⟨[], _, rfl, here, fun _ _ _ shorter => absurd shorter (Nat.not_lt_zero _)⟩
          · rintro ⟨before, rest, split, read, least⟩
            cases before with
            | nil =>
                rw [List.nil_append] at split
                rw [← split, here] at read
                exact read
            | cons d before =>
                have passed := least [] (c :: text) rfl (Nat.zero_lt_succ _)
                rw [here] at passed
                cases passed
      | none =>
          simp only
          rw [ih]
          constructor
          · rintro ⟨before, rest, rfl, read, least⟩
            refine ⟨c :: before, rest, rfl, read, fun earlier later split shorter => ?_⟩
            cases earlier with
            | nil =>
                rw [List.nil_append] at split
                rw [← split, here]
            | cons d earlier =>
                exact least earlier later (List.cons.inj split).2 (Nat.lt_of_succ_lt_succ shorter)
          · rintro ⟨before, rest, split, read, least⟩
            cases before with
            | nil =>
                rw [List.nil_append] at split
                rw [← split, here] at read
                cases read
            | cons d before =>
                obtain ⟨rfl, rfl⟩ := List.cons.inj split
                refine ⟨before, rest, rfl, read, fun earlier later split shorter => ?_⟩
                exact least (c :: earlier) later (congrArg (c :: ·) split) (Nat.succ_lt_succ shorter)

theorem quotedName?_eq_some_iff {mark : Char} {more : Text} (apart : p mark = false) :
    quotedName? p start (mark :: more) text = some name ↔
      name ≠ [] ∧ (∀ c ∈ name, p c = true) ∧ start ++ name ++ (mark :: more) <+: text := by
  simp only [quotedName?, Option.bind_eq_bind, Option.bind_eq_some_iff, Prod.exists,
    Text.after?_eq_some_iff, Text.run?_eq_some_iff]
  constructor
  · rintro ⟨_, rfl, read, _, ⟨some_name, chars, _, rfl⟩, behind, rfl, same⟩
    cases same
    exact ⟨some_name, chars, behind, by simp⟩
  · rintro ⟨some_name, chars, behind, rfl⟩
    exact ⟨name ++ (mark :: more ++ behind), by simp, name, mark :: more ++ behind,
      ⟨some_name, chars, apart, rfl⟩, behind, rfl, rfl⟩

def Apart (p : Char → Bool) (stops : List Text) : Prop :=
  ∀ stop ∈ stops, ∃ mark more, stop = mark :: more ∧ p mark = false

theorem Quotes.unique (apart : Apart p stops) (h : Quotes p start stops text name)
    (h' : Quotes p start stops text other) : name = other := by
  -- The name is the longest run of its characters, whichever of the stops follows it.
  obtain ⟨some_name, chars, stop, listed, behind, rfl⟩ := h
  obtain ⟨some_other, chars', stop', listed', behind', same⟩ := h'
  obtain ⟨mark, more, rfl, ends⟩ := apart stop listed
  obtain ⟨mark', more', rfl, ends'⟩ := apart stop' listed'
  simp only [List.append_assoc, List.append_cancel_left_eq] at same
  have run : Text.run? p (name ++ mark :: (more ++ behind)) = some (name, mark :: (more ++ behind)) :=
    Text.run?_append some_name chars ends
  have run' : Text.run? p (other ++ mark' :: (more' ++ behind')) =
      some (other, mark' :: (more' ++ behind')) :=
    Text.run?_append some_other chars' ends'
  rw [List.cons_append, List.cons_append] at same
  rw [← same, run'] at run
  exact (Prod.mk.inj (Option.some.inj run)).1.symm

theorem findSome?_quotedName?_iff (apart : Apart p stops) :
    (stops.findSome? fun stop => quotedName? p start stop text) = some name ↔
      Quotes p start stops text name := by
  have sound : ∀ {found}, (stops.findSome? fun stop => quotedName? p start stop text) = some found →
      Quotes p start stops text found := by
    intro found read
    obtain ⟨stop, listed, read⟩ := List.exists_of_findSome?_eq_some read
    obtain ⟨mark, more, rfl, ends⟩ := apart stop listed
    obtain ⟨some_name, chars, stands⟩ := (quotedName?_eq_some_iff ends).1 read
    exact ⟨some_name, chars, _, listed, stands⟩
  refine ⟨sound, fun quotes => ?_⟩
  have ⟨some_name, chars, stop, listed, stands⟩ := quotes
  cases read : stops.findSome? fun stop => quotedName? p start stop text with
  | some found => rw [(sound read).unique apart quotes]
  | none =>
      obtain ⟨mark, more, rfl, ends⟩ := apart stop listed
      have passed := List.findSome?_eq_none_iff.1 read _ listed
      rw [(quotedName?_eq_some_iff ends).2 ⟨some_name, chars, stands⟩] at passed
      cases passed

theorem search_quotedName?_iff (apart : Apart p stops) :
    search (fun text => stops.findSome? fun stop => quotedName? p start stop text) text = some name ↔
      QuotesFirst p start stops text name := by
  simp only [search_eq_some_iff, findSome?_quotedName?_iff apart, QuotesFirst,
    Option.eq_none_iff_forall_ne_some, ne_eq]

theorem missingName?_eq_some_iff : missingName? text = some name ↔
    QuotesFirst Text.isWord "Cannot find name '" ["'"] text name := by
  have apart : Apart Text.isWord [("'" : Text)] := by
    intro stop listed
    rw [List.mem_singleton.1 listed]
    exact ⟨'\'', [], rfl, by decide⟩
  rw [← search_quotedName?_iff apart]
  simp only [List.findSome?_singleton]
  rfl

theorem globalNamespace?_eq_some_iff : globalNamespace? text = some name ↔
    QuotesFirst Text.isWord "'" ["' refers to a UMD global"] text name := by
  have apart : Apart Text.isWord [("' refers to a UMD global" : Text)] := by
    intro stop listed
    rw [List.mem_singleton.1 listed]
    exact ⟨'\'', _, rfl, by decide⟩
  rw [← search_quotedName?_iff apart]
  simp only [List.findSome?_singleton]
  rfl

theorem unusedName?_eq_some_iff : unusedName? text = some name ↔
    QuotesFirst Text.isNameChar "'" unusedWordings text name := by
  apply search_quotedName?_iff
  intro stop listed
  simp only [unusedWordings, List.mem_cons, List.not_mem_nil, or_false] at listed
  rcases listed with rfl | rfl | rfl | rfl <;> exact ⟨'\'', _, rfl, by decide⟩

end Remedy

namespace Conventions

theorem lookup_eq_some_iff_mem {table : List (Text × Text)} {name statement : Text}
    (distinct : (table.map (·.1)).Nodup) :
    table.lookup name = some statement ↔ (name, statement) ∈ table := by
  rw [List.lookup_eq_some_iff]
  constructor
  · rintro ⟨before, after, rfl, _⟩
    simp
  · intro listed
    obtain ⟨before, after, rfl⟩ := List.append_of_mem listed
    refine ⟨before, after, rfl, fun entry early => ?_⟩
    rw [List.map_append, List.nodup_append] at distinct
    have apart := distinct.2.2 entry.1 (List.mem_map_of_mem early) name (by simp)
    exact bne_iff_ne.2 (Ne.symm apart)

theorem importOf?_eq_some_iff {name statement : Text} :
    importOf? name = some statement ↔ (name, statement) ∈ importsByName :=
  lookup_eq_some_iff_mem (by decide)

theorem importOfNamespace?_eq_some_iff {name statement : Text} :
    importOfNamespace? name = some statement ↔ (name, statement) ∈ importsByNamespace :=
  lookup_eq_some_iff_mem (by decide)

end Conventions

namespace Diagnostic

variable {d : Diagnostic} {name statement : Text}

inductive AsksFor (d : Diagnostic) (name statement : Text) : Prop where
  | missing : d.code = "TS2304".toList →
      Remedy.QuotesFirst Text.isWord "Cannot find name '" ["'"] d.message name →
      (name, statement) ∈ Conventions.importsByName → AsksFor d name statement
  | global : d.code = "TS2686".toList →
      Remedy.QuotesFirst Text.isWord "'" ["' refers to a UMD global"] d.message name →
      (name, statement) ∈ Conventions.importsByNamespace → AsksFor d name statement

def Reports (d : Diagnostic) (name : Text) : Prop :=
  d.code = "TS6133".toList ∧
    Remedy.QuotesFirst Text.isNameChar "'" Remedy.unusedWordings d.message name

def IsLeft (d : Diagnostic) : Prop :=
  (∀ name statement, ¬ d.AsksFor name statement) ∧ ∀ name, ¬ d.Reports name

def reviewEntry (d : Diagnostic) : Entry :=
  ⟨.warning, "Manual review needed in " ++ d.location ++ ": " ++ (Remedy.ofDiagnostic d).reason⟩

theorem AsksFor.statement_ne_nil (h : d.AsksFor name statement) : statement ≠ [] := by
  have named : ∀ entry ∈ Conventions.importsByName, entry.2 ≠ [] := by decide
  have global : ∀ entry ∈ Conventions.importsByNamespace, entry.2 ≠ [] := by decide
  cases h with
  | missing _ _ listed => exact named _ listed
  | global _ _ listed => exact global _ listed

theorem Reports.isName (h : d.Reports name) :
    name ≠ [] ∧ ∀ c ∈ name, Text.isNameChar c = true := by
  obtain ⟨_, _, _, _, ⟨some_name, chars, _⟩, _⟩ := h
  exact ⟨some_name, chars⟩

theorem AsksFor.not_reports {other : Text} (h : d.AsksFor name statement) : ¬ d.Reports other := by
  intro reports
  cases h with
  | missing coded _ _ =>
      rw [Reports, coded] at reports
      exact absurd reports.1 (by decide)
  | global coded _ _ =>
      rw [Reports, coded] at reports
      exact absurd reports.1 (by decide)

end Diagnostic

namespace Remedy

variable {d : Diagnostic} {name : Text}

inductive ComesFrom (d : Diagnostic) : Remedy → Prop where
  | global : ∀ {name : Text}, d.code = "TS2686".toList →
      QuotesFirst Text.isWord "'" ["' refers to a UMD global"] d.message name →
      ComesFrom d (forNamespace name)
  | missing : ∀ {name : Text}, d.code = "TS2304".toList →
      QuotesFirst Text.isWord "Cannot find name '" ["'"] d.message name → ComesFrom d (forName name)
  | unused : ∀ {name : Text}, d.Reports name → ComesFrom d (underscore name)
  | unquoted : ∀ {remedy : Remedy}, remedy.isFixable = false → ComesFrom d remedy

theorem ofDiagnostic_of_global (coded : d.code = "TS2686".toList) :
    ofDiagnostic d = ((globalNamespace? d.message).map forNamespace).getD
      (unresolved none ("no fixer for " ++ d.code)) := by
  rw [ofDiagnostic, ofCode?, if_pos coded]

theorem ofDiagnostic_of_missing (coded : d.code = "TS2304".toList) :
    ofDiagnostic d = ((missingName? d.message).map forName).getD
      (unresolved none ("no fixer for " ++ d.code)) := by
  rw [ofDiagnostic, ofCode?, if_neg (by rw [coded]; decide), if_pos coded]

theorem ofDiagnostic_of_unused (coded : d.code = "TS6133".toList) :
    ofDiagnostic d = ((unusedName? d.message).map underscore).getD
      (unresolved none ("no fixer for " ++ d.code)) := by
  rw [ofDiagnostic, ofCode?, if_neg (by rw [coded]; decide), if_neg (by rw [coded]; decide),
    if_pos coded]

theorem comesFrom (d : Diagnostic) : ComesFrom d (ofDiagnostic d) := by
  by_cases global : d.code = "TS2686".toList
  · rw [ofDiagnostic_of_global global]
    cases quoted : globalNamespace? d.message with
    | none => exact .unquoted rfl
    | some name => exact .global global (globalNamespace?_eq_some_iff.1 quoted)
  · by_cases missing : d.code = "TS2304".toList
    · rw [ofDiagnostic_of_missing missing]
      cases quoted : missingName? d.message with
      | none => exact .unquoted rfl
      | some name => exact .missing missing (missingName?_eq_some_iff.1 quoted)
    · by_cases unused : d.code = "TS6133".toList
      · rw [ofDiagnostic_of_unused unused]
        cases quoted : unusedName? d.message with
        | none => exact .unquoted rfl
        | some name => exact .unused ⟨unused, unusedName?_eq_some_iff.1 quoted⟩
      · rw [ofDiagnostic, ofCode?, if_neg global, if_neg missing, if_neg unused]
        split <;> exact .unquoted rfl

theorem statement?_forName (name : Text) :
    (forName name).statement? = Conventions.importOf? name := by
  unfold forName
  cases Conventions.importOf? name <;> rfl

theorem statement?_forNamespace (name : Text) :
    (forNamespace name).statement? = Conventions.importOfNamespace? name := by
  unfold forNamespace
  cases Conventions.importOfNamespace? name <;> rfl

theorem ofDiagnostic_eq_underscore_iff : ofDiagnostic d = underscore name ↔ d.Reports name := by
  constructor
  · intro same
    have origin := comesFrom d
    rw [same] at origin
    generalize chosen : underscore name = remedy at origin
    cases origin with
    | @global other _ _ =>
        unfold forNamespace at chosen
        split at chosen <;> cases chosen
    | @missing other _ _ =>
        unfold forName at chosen
        split at chosen <;> cases chosen
    | unused reported =>
        cases chosen
        exact reported
    | unquoted unfixable =>
        rw [← chosen] at unfixable
        cases unfixable
  · rintro ⟨coded, quoted⟩
    rw [ofDiagnostic_of_unused coded, unusedName?_eq_some_iff.2 quoted]
    rfl

end Remedy

namespace Plan

variable {diagnostics : List Diagnostic} {d : Diagnostic} {statement : Text}

theorem statement?_eq_some_iff : statement? d = some statement ↔ ∃ name, d.AsksFor name statement := by
  unfold statement?
  constructor
  · intro asked
    have origin := Remedy.comesFrom d
    generalize Remedy.ofDiagnostic d = remedy at asked origin
    cases origin with
    | @global name coded quoted =>
        rw [Remedy.statement?_forNamespace] at asked
        exact ⟨name, .global coded quoted (Conventions.importOfNamespace?_eq_some_iff.1 asked)⟩
    | @missing name coded quoted =>
        rw [Remedy.statement?_forName] at asked
        exact ⟨name, .missing coded quoted (Conventions.importOf?_eq_some_iff.1 asked)⟩
    | unused _ => cases asked
    | unquoted unfixable => cases remedy <;> simp [Remedy.statement?, Remedy.isFixable] at asked unfixable
  · rintro ⟨name, ⟨coded, quoted, listed⟩ | ⟨coded, quoted, listed⟩⟩
    · rw [Remedy.ofDiagnostic_of_missing coded, Remedy.missingName?_eq_some_iff.2 quoted,
        Option.map_some, Option.getD_some, Remedy.statement?_forName]
      exact Conventions.importOf?_eq_some_iff.2 listed
    · rw [Remedy.ofDiagnostic_of_global coded, Remedy.globalNamespace?_eq_some_iff.2 quoted,
        Option.map_some, Option.getD_some, Remedy.statement?_forNamespace]
      exact Conventions.importOfNamespace?_eq_some_iff.2 listed

theorem unusedName?_eq_some_iff {unused : UnusedName} : unusedName? d = some unused ↔
    d.Reports unused.name ∧ unused.file = d.file ∧ unused.line = d.line := by
  unfold unusedName?
  constructor
  · intro found
    split at found
    · rename_i name reported
      cases found
      exact ⟨Remedy.ofDiagnostic_eq_underscore_iff.1 reported, rfl, rfl⟩
    · cases found
  · rintro ⟨reported, file, line⟩
    rw [Remedy.ofDiagnostic_eq_underscore_iff.2 reported]
    simp only [← file, ← line]

theorem plain_of_mem_unusedNames {diagnostics : List Diagnostic} {unused : UnusedName}
    (planned : unused ∈ unusedNames diagnostics) : UnusedNames.Plain unused.name := by
  obtain ⟨d, _, asked⟩ := mem_unusedNames.1 planned
  exact (unusedName?_eq_some_iff.1 asked).1.isName

theorem isFixable_eq_false_iff : (Remedy.ofDiagnostic d).isFixable = false ↔ d.IsLeft := by
  constructor
  · intro unfixable
    refine ⟨fun name statement asks => ?_, fun name reports => ?_⟩
    · rw [isFixable_of_statement? (statement?_eq_some_iff.2 ⟨name, asks⟩)] at unfixable
      cases unfixable
    · rw [Remedy.ofDiagnostic_eq_underscore_iff.2 reports] at unfixable
      cases unfixable
  · rintro ⟨noImport, noRename⟩
    rcases remedy_cases d with ⟨unused, found⟩ | ⟨statement, found⟩ | unfixable
    · exact absurd (unusedName?_eq_some_iff.1 found).1 (noRename _)
    · obtain ⟨name, asks⟩ := statement?_eq_some_iff.1 found
      exact absurd asks (noImport _ _)
    · exact unfixable

instance : DecidablePred Diagnostic.IsLeft :=
  fun _ => decidable_of_iff _ isFixable_eq_false_iff

theorem review_entries (diagnostics : List Diagnostic) :
    (review diagnostics).entries =
      (diagnostics.filter fun d => d.IsLeft).map Diagnostic.reviewEntry := by
  have same : (fun d => !(Remedy.ofDiagnostic d).isFixable) = fun d => decide d.IsLeft := by
    funext d
    rw [Bool.eq_iff_iff, Bool.not_eq_true', decide_eq_true_iff]
    exact isFixable_eq_false_iff
  rw [review, Outcome.ofEntries, same]
  rfl

theorem review_singleton_eq_iff :
    (review [d]).entries = [d.reviewEntry] ↔ d.IsLeft := by
  rw [review_entries]
  by_cases left : d.IsLeft <;> simp [left]

inductive Route where
  | addImport
  | rename
  | review
  deriving DecidableEq

/-- A diagnostic goes a way among others: what it asks for is in the plan for its file, or on its
own it gives one warning at its location. -/
inductive Goes (diagnostics : List Diagnostic) (d : Diagnostic) : Route → Prop where
  | addImport : ∀ {name statement : Text} {statements : List Text}, d.AsksFor name statement →
      statement ≠ [] → (d.file, statements) ∈ imports diagnostics → statement ∈ statements →
      Goes diagnostics d .addImport
  | rename : ∀ {name : Text}, d.Reports name → name ≠ [] → (∀ c ∈ name, Text.isNameChar c = true) →
      ⟨d.file, name, d.line⟩ ∈ unusedNames diagnostics → Goes diagnostics d .rename
  | review : (review [d]).entries = [d.reviewEntry] → Goes diagnostics d .review

theorem goes_addImport_iff (member : d ∈ diagnostics) :
    Goes diagnostics d .addImport ↔ ∃ name statement, d.AsksFor name statement := by
  constructor
  · rintro (asks | _ | _)
    exact ⟨_, _, asks⟩
  · rintro ⟨name, statement, asks⟩
    obtain ⟨statements, planned, listed⟩ :=
      exists_group_of_statement? member (statement?_eq_some_iff.2 ⟨name, asks⟩)
    exact .addImport asks asks.statement_ne_nil planned listed

theorem goes_rename_iff (member : d ∈ diagnostics) :
    Goes diagnostics d .rename ↔ ∃ name, d.Reports name := by
  constructor
  · rintro (_ | reports | _)
    exact ⟨_, reports⟩
  · rintro ⟨name, reports⟩
    obtain ⟨some_name, chars⟩ := reports.isName
    have found : unusedName? d = some ⟨d.file, name, d.line⟩ :=
      unusedName?_eq_some_iff.2 ⟨reports, rfl, rfl⟩
    exact .rename reports some_name chars (mem_unusedNames.2 ⟨d, member, found⟩)

theorem goes_review_iff : Goes diagnostics d .review ↔ d.IsLeft := by
  constructor
  · rintro (_ | _ | alone)
    exact review_singleton_eq_iff.1 alone
  · exact fun left => .review (review_singleton_eq_iff.2 left)

theorem exists_route (member : d ∈ diagnostics) : ∃ route, Goes diagnostics d route := by
  rcases remedy_cases d with ⟨unused, found⟩ | ⟨statement, found⟩ | unfixable
  · exact ⟨_, (goes_rename_iff member).2 ⟨_, (unusedName?_eq_some_iff.1 found).1⟩⟩
  · obtain ⟨name, asks⟩ := statement?_eq_some_iff.1 found
    exact ⟨_, (goes_addImport_iff member).2 ⟨name, statement, asks⟩⟩
  · exact ⟨_, goes_review_iff.2 (isFixable_eq_false_iff.1 unfixable)⟩

theorem route_unique {route other : Route} (h : Goes diagnostics d route)
    (h' : Goes diagnostics d other) : route = other := by
  have imported : ∀ {name statement}, d.AsksFor name statement →
      (review [d]).entries ≠ [d.reviewEntry] :=
    fun asks alone => (review_singleton_eq_iff.1 alone).1 _ _ asks
  have renamed : ∀ {name}, d.Reports name → (review [d]).entries ≠ [d.reviewEntry] :=
    fun reports alone => (review_singleton_eq_iff.1 alone).2 _ reports
  cases h with
  | addImport asks _ _ _ =>
      cases h' with
      | addImport => rfl
      | rename reports _ _ _ => exact absurd reports asks.not_reports
      | review alone => exact absurd alone (imported asks)
  | rename reports _ _ _ =>
      cases h' with
      | addImport asks _ _ _ => exact absurd reports asks.not_reports
      | rename => rfl
      | review alone => exact absurd alone (renamed reports)
  | review alone =>
      cases h' with
      | addImport asks _ _ _ => exact absurd alone (imported asks)
      | rename reports _ _ _ => exact absurd alone (renamed reports)
      | review => rfl

theorem routes_partition (diagnostics : List Diagnostic) :
    (∀ d ∈ diagnostics, (∃! route, Goes diagnostics d route) ∧
      (Goes diagnostics d .addImport ↔ ∃ name statement, d.AsksFor name statement) ∧
      (Goes diagnostics d .rename ↔ ∃ name, d.Reports name)) ∧
    (∀ file statements, (file, statements) ∈ imports diagnostics → ∀ statement ∈ statements,
      ∃ d ∈ diagnostics, d.file = file ∧ ∃ name, d.AsksFor name statement) ∧
    (∀ unused ∈ unusedNames diagnostics,
      ∃ d ∈ diagnostics, d.file = unused.file ∧ d.line = unused.line ∧ d.Reports unused.name) ∧
    (review diagnostics).entries =
      (diagnostics.filter fun d => d.IsLeft).map Diagnostic.reviewEntry := by
  refine ⟨fun d member => ?_, fun file statements planned statement listed => ?_,
    fun unused planned => ?_, review_entries diagnostics⟩
  · obtain ⟨route, goes⟩ := exists_route member
    exact ⟨⟨route, goes, fun other goes' => route_unique goes' goes⟩,
      goes_addImport_iff member, goes_rename_iff member⟩
  · have kept : statements = statementsOf diagnostics file := statements_of_mem_imports planned
    rw [kept] at listed
    obtain ⟨d, member, filed, asked⟩ := mem_statementsOf.1 listed
    exact ⟨d, member, filed, statement?_eq_some_iff.1 asked⟩
  · obtain ⟨d, member, found⟩ := mem_unusedNames.1 planned
    obtain ⟨reports, file, line⟩ := unusedName?_eq_some_iff.1 found
    exact ⟨d, member, file.symm, line.symm, reports⟩

def asking : Diagnostic :=
  ⟨"a.tsx", 3, 1, "TS2304", "Cannot find name 'use State': Cannot find name 'useState'.", []⟩

def reporting : Diagnostic :=
  ⟨"a.tsx", 3, 7, "TS6133", "'$row' is declared but its value is never read.", []⟩

def unknownName : Diagnostic :=
  ⟨"a.tsx", 3, 9, "TS2304", "Cannot find name 'row'.", []⟩

theorem routes_partition_three :
    Goes [asking, reporting, unknownName] asking .addImport ∧
    Goes [asking, reporting, unknownName] reporting .rename ∧
    (∃! route, Goes [asking, reporting, unknownName] unknownName route) ∧
    (∀ name statement, ¬ unknownName.AsksFor name statement) ∧
    (review [asking, reporting, unknownName]).entries =
      [⟨.warning, "Manual review needed in a.tsx:3: no known import for 'row'"⟩] := by
  obtain ⟨routes, _, _, warnings⟩ := routes_partition [asking, reporting, unknownName]
  have asked : statement? asking = some "import \x7b useState \x7d from 'react';".toList := by
    decide +kernel
  have reported : unusedName? reporting = some ⟨"a.tsx", "$row", 3⟩ := by decide +kernel
  have unasked : statement? unknownName = none := by decide +kernel
  refine ⟨?_, ?_, (routes unknownName (by simp)).1, fun name statement asks => ?_, ?_⟩
  · obtain ⟨name, asks⟩ := statement?_eq_some_iff.1 asked
    exact (routes asking (by simp)).2.1.2 ⟨name, _, asks⟩
  · exact (routes reporting (by simp)).2.2.2 ⟨_, (unusedName?_eq_some_iff.1 reported).1⟩
  · rw [statement?_eq_some_iff.2 ⟨name, asks⟩] at unasked
    cases unasked
  · rw [warnings]
    decide +kernel

end Plan

end DiagnosticRepair
