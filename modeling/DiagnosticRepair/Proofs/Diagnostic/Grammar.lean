import DiagnosticRepair.Proofs.Diagnostic.Rendering
import DiagnosticRepair.Proofs.Text.Occurrence

namespace DiagnosticRepair

namespace Text

variable {text line : Text}

theorem blank_of_isTerminator {c : Char} (h : isTerminator c = true) :
    isBlank c = true ∧ c.isDigit = false := by
  have listed := List.contains_iff_mem.1 h
  simp only [List.mem_cons, List.not_mem_nil, or_false] at listed
  rcases listed with rfl | rfl | rfl | rfl | rfl | rfl | rfl | rfl | rfl | rfl <;> decide

theorem noTerminator_of_not_blank {c : Char} (h : isBlank c = false) : isTerminator c = false := by
  cases ends : isTerminator c with
  | false => rfl
  | true => simp [(blank_of_isTerminator ends).1] at h

theorem noTerminator_of_isDigit {c : Char} (h : c.isDigit = true) : isTerminator c = false := by
  cases ends : isTerminator c with
  | false => rfl
  | true => simp [(blank_of_isTerminator ends).2] at h

theorem digitValue?_of_isDigit {c : Char} (h : c.isDigit = true) :
    digitValue? c = some (c.toNat - '0'.toNat) := by
  have range : 48 ≤ c.toNat ∧ c.toNat ≤ 57 := by
    simpa [Char.isDigit, UInt32.le_iff_toNat_le] using h
  have found : digitZeros.find? (fun first => first ≤ c.toNat && c.toNat < first + 10) = some 48 :=
    List.find?_cons_of_pos (by
      simp only [Bool.and_eq_true, decide_eq_true_eq]
      omega)
  rw [digitValue?, found]
  rfl

theorem isDigit_of_mem_ofNat {n : Nat} {c : Char} (h : c ∈ ofNat n) : c.isDigit = true :=
  Nat.isDigit_of_mem_toDigits (by decide) (by decide) h

theorem digitsValue_ofNat (n : Nat) : digitsValue (ofNat n) = n := by
  have same : ∀ digits : Text, (∀ c ∈ digits, c.isDigit = true) → ∀ start,
      digits.foldl (fun n c => 10 * n + (digitValue? c).getD 0) start =
        Nat.ofDigitChars 10 digits start := by
    intro digits
    induction digits with
    | nil => exact fun _ _ => rfl
    | cons c digits ih =>
        intro all start
        obtain ⟨first, others⟩ := List.forall_mem_cons.1 all
        rw [List.foldl_cons, ih others, digitValue?_of_isDigit first]
        rfl
  rw [digitsValue, same _ (fun _ => isDigit_of_mem_ofNat)]
  exact Nat.ofDigitChars_ten_toDigits

theorem ofInt_ne_nil {n : Int} (h : 0 ≤ n) : ofInt n ≠ [] := by
  obtain ⟨n, rfl⟩ := Int.eq_ofNat_of_zero_le h
  exact Nat.toDigits_ne_nil

theorem isDigit_of_mem_ofInt {n : Int} (h : 0 ≤ n) {c : Char} (member : c ∈ ofInt n) :
    c.isDigit = true := by
  obtain ⟨n, rfl⟩ := Int.eq_ofNat_of_zero_le h
  exact isDigit_of_mem_ofNat member

theorem digitsValue_ofInt {n : Int} (h : 0 ≤ n) : (digitsValue (ofInt n) : Int) = n := by
  obtain ⟨n, rfl⟩ := Int.eq_ofNat_of_zero_le h
  exact congrArg Int.ofNat (digitsValue_ofNat n)

theorem lines_append_feed (h : ∀ c ∈ line, isTerminator c = false) (rest : Text) :
    lines (line ++ '\n' :: rest) = line :: lines rest := by
  induction line with
  | nil => rfl
  | cons c line ih =>
      obtain ⟨goes, others⟩ := List.forall_mem_cons.1 h
      rw [List.cons_append, lines_cons_of_noTerminator goes, ih others]

theorem lines_of_noTerminator (some_line : line ≠ []) (h : ∀ c ∈ line, isTerminator c = false) :
    lines line = [line] := by
  induction line with
  | nil => exact absurd rfl some_line
  | cons c line ih =>
      obtain ⟨goes, others⟩ := List.forall_mem_cons.1 h
      rw [lines_cons_of_noTerminator goes]
      cases line with
      | nil => rfl
      | cons d line => rw [ih (List.cons_ne_nil _ _) others]

theorem lines_join : ∀ {pieces : List Text},
    (∀ piece ∈ pieces, piece ≠ [] ∧ ∀ c ∈ piece, isTerminator c = false) →
      lines (join ['\n'] pieces) = pieces
  | [], _ => rfl
  | [piece], h => by
      obtain ⟨some_piece, plain⟩ := h piece (List.mem_cons_self ..)
      rw [join_singleton, lines_of_noTerminator some_piece plain]
  | piece :: next :: rest, h => by
      obtain ⟨first, others⟩ := List.forall_mem_cons.1 h
      rw [join_cons_cons, List.append_assoc, List.singleton_append, lines_append_feed first.2,
        lines_join others]

theorem dropEndWhile_of_blank_last {p : Char → Bool} {c : Char} (h : p c = true) (text : Text) :
    dropEndWhile p (text ++ [c]) = dropEndWhile p text := by
  induction text with
  | nil => simp [dropEndWhile, h]
  | cons d text ih => rw [List.cons_append, dropEndWhile, dropEndWhile, ih]

theorem trim_eq_self_iff :
    trim text = text ↔ text.head?.any isBlank = false ∧ text.getLast?.any isBlank = false := by
  constructor
  · intro same
    have behind : trimStart text <:+ text := List.dropWhile_suffix isBlank
    have within : trim text <+: trimStart text := dropEndWhile_isPrefix isBlank _
    rw [same] at within
    have whole : trimStart text = text := behind.eq_of_length_le within.length_le
    constructor
    · cases text with
      | nil => rfl
      | cons c rest =>
          cases blank : isBlank c with
          | false => exact blank
          | true =>
              rw [trimStart, List.dropWhile_cons, if_pos blank] at whole
              have shorter := (List.dropWhile_suffix (l := rest) isBlank).length_le
              rw [whole, List.length_cons] at shorter
              omega
    · rcases List.eq_nil_or_concat text with rfl | ⟨start, c, rfl⟩
      · rfl
      · rw [List.concat_eq_append] at whole same ⊢
        rw [List.getLast?_concat]
        cases blank : isBlank c with
        | false => exact blank
        | true =>
            rw [trim, whole, trimEnd, dropEndWhile_of_blank_last blank] at same
            have shorter := (dropEndWhile_isPrefix isBlank start).length_le
            rw [same, List.length_append, List.length_singleton] at shorter
            omega
  · rintro ⟨first, last⟩
    cases text with
    | nil => rfl
    | cons c rest =>
        obtain ⟨start, d, same⟩ := (List.eq_nil_or_concat (c :: rest)).resolve_left (by simp)
        rw [List.concat_eq_append] at same
        rw [same, List.getLast?_concat] at last
        exact trim_of_ends same first last

structure Bare (text : Text) : Prop where
  ne_nil : text ≠ []
  trimmed : trim text = text
  unbroken : ∀ c ∈ text, isTerminator c = false

theorem unbroken_of_all (h : text.all (!isTerminator ·) = true) :
    ∀ c ∈ text, isTerminator c = false := by
  simpa using h

theorem Bare.around {last : Text} (h : Bare text) (h' : Bare last) {middle : Text}
    (plain : ∀ c ∈ middle, isTerminator c = false) : Bare (text ++ middle ++ last) where
  ne_nil := by simp [h.ne_nil]
  trimmed := by
    have first := (trim_eq_self_iff.1 h.trimmed).1
    have ends := (trim_eq_self_iff.1 h'.trimmed).2
    obtain ⟨c, rest, rfl⟩ := List.exists_cons_of_ne_nil h.ne_nil
    obtain ⟨start, d, rfl⟩ := List.eq_nil_or_concat last |>.resolve_left h'.ne_nil
    rw [List.concat_eq_append, List.getLast?_concat] at ends
    refine trim_eq_self_iff.2 ⟨first, ?_⟩
    rw [List.concat_eq_append, ← List.append_assoc, List.getLast?_concat]
    exact ends
  unbroken := by
    simp only [List.mem_append]
    rintro c ((inside | inside) | inside)
    · exact h.unbroken c inside
    · exact plain c inside
    · exact h'.unbroken c inside

end Text

namespace Diagnostic

variable {file other line output : Text} {marker marker' : Marker} {lines : List Text}
  {diagnostic : Diagnostic} {diagnostics : List Diagnostic}

def Marker.text (marker : Marker) : Text :=
  "(" ++ marker.line ++ "," ++ marker.column ++ "): error " ++ marker.code ++ ": " ++ marker.message

structure Marker.WellFormed (marker : Marker) : Prop where
  line_ne_nil : marker.line ≠ []
  line_digits : ∀ c ∈ marker.line, Text.isDigit c = true
  column_ne_nil : marker.column ≠ []
  column_digits : ∀ c ∈ marker.column, Text.isDigit c = true
  code_ne_nil : marker.code ≠ []
  code_chars : ∀ c ∈ marker.code, isCodeChar c = true
  message_ne_nil : marker.message ≠ []

theorem Marker.read?_eq_some_iff :
    Marker.read? line = some marker ↔ marker.WellFormed ∧ line = marker.text := by
  -- Each run is the longest one, because what is written behind it does not belong to it.
  simp only [Marker.read?, Option.bind_eq_bind, Option.bind_eq_some_iff, Prod.exists,
    Text.after?_eq_some_iff, Text.run?_eq_some_iff]
  constructor
  · rintro ⟨_, rfl, number, _, ⟨some_line, line_digits, _, rfl⟩, _, rfl, column, _,
      ⟨some_column, column_digits, _, rfl⟩, _, rfl, code, _, ⟨some_code, code_chars, _, rfl⟩,
      message, rfl, read⟩
    split at read
    · cases read
    · rename_i some_message
      cases read
      exact ⟨⟨some_line, line_digits, some_column, column_digits, some_code, code_chars,
        by simpa using some_message⟩, by simp [Marker.text]⟩
  · rintro ⟨fit, rfl⟩
    obtain ⟨number, column, code, message⟩ := marker
    refine ⟨_, by simp only [Marker.text, List.append_assoc], number, _,
      ⟨fit.line_ne_nil, fit.line_digits, ?_, rfl⟩, _, rfl, column, _,
      ⟨fit.column_ne_nil, fit.column_digits, ?_, rfl⟩, _, rfl, code, _,
      ⟨fit.code_ne_nil, fit.code_chars, ?_, rfl⟩, message, rfl,
      if_neg (by simpa using fit.message_ne_nil)⟩
    · rfl
    · rfl
    · rfl

structure Spells (file : Text) (marker : Marker) (line : Text) : Prop where
  file_ne_nil : file ≠ []
  fit : marker.WellFormed
  eq_append : line = file ++ marker.text

/-- No shorter file leaves a marker. -/
structure SpellsFirst (file : Text) (marker : Marker) (line : Text) : Prop
    extends Spells file marker line where
  shortest : ∀ other marker', Spells other marker' line → file.length ≤ other.length

theorem SpellsFirst.unique (h : SpellsFirst file marker line)
    (h' : SpellsFirst other marker' line) : file = other ∧ marker = marker' := by
  have length := Nat.le_antisymm (h.shortest _ _ h'.toSpells) (h'.shortest _ _ h.toSpells)
  obtain ⟨same, rest⟩ := List.append_inj (h.eq_append.symm.trans h'.eq_append) length
  have read := Marker.read?_eq_some_iff.2 ⟨h.fit, rfl⟩
  rw [rest, Marker.read?_eq_some_iff.2 ⟨h'.fit, rfl⟩] at read
  exact ⟨same, (Option.some.inj read).symm⟩

theorem spells_cons_iff {c : Char} : Spells file marker (c :: line) ↔
    file = [c] ∧ Marker.read? line = some marker ∨
      ∃ shorter, file = c :: shorter ∧ Spells shorter marker line := by
  constructor
  · rintro ⟨some_file, fit, split⟩
    obtain ⟨d, shorter, rfl⟩ := List.exists_cons_of_ne_nil some_file
    obtain ⟨rfl, rest⟩ := List.cons.inj split
    cases shorter with
    | nil => exact .inl ⟨rfl, Marker.read?_eq_some_iff.2 ⟨fit, rest⟩⟩
    | cons d shorter => exact .inr ⟨_, rfl, List.cons_ne_nil _ _, fit, rest⟩
  · rintro (⟨rfl, read⟩ | ⟨shorter, rfl, spells⟩)
    · obtain ⟨fit, rfl⟩ := Marker.read?_eq_some_iff.1 read
      exact ⟨List.cons_ne_nil _ _, fit, rfl⟩
    · exact ⟨List.cons_ne_nil _ _, spells.fit, congrArg (c :: ·) spells.eq_append⟩

theorem findMarker?_eq_none_iff :
    findMarker? line = none ↔ ∀ file marker, ¬ Spells file marker line := by
  induction line with
  | nil =>
      refine iff_of_true rfl fun file marker spells => spells.file_ne_nil ?_
      exact (List.append_eq_nil_iff.1 spells.eq_append.symm).1
  | cons c line ih =>
      simp only [spells_cons_iff]
      rw [findMarker?]
      cases read : Marker.read? line with
      | some found =>
          refine iff_of_false (by simp) fun none_fits => ?_
          exact none_fits [c] found (.inl ⟨rfl, rfl⟩)
      | none =>
          simp only [Option.map_eq_none_iff, ih]
          constructor
          · rintro none_fits file marker (⟨_, found⟩ | ⟨shorter, _, spells⟩)
            · cases found
            · exact none_fits shorter marker spells
          · intro none_fits file marker spells
            exact none_fits (c :: file) marker (.inr ⟨file, rfl, spells⟩)

theorem spellsFirst_of_findMarker? (h : findMarker? line = some (file, marker)) :
    SpellsFirst file marker line := by
  induction line generalizing file with
  | nil => cases h
  | cons c line ih =>
      rw [findMarker?] at h
      cases read : Marker.read? line with
      | some found =>
          rw [read] at h
          cases h
          refine ⟨spells_cons_iff.2 (.inl ⟨rfl, read⟩), fun other marker' spells => ?_⟩
          exact List.length_pos_iff.2 spells.file_ne_nil
      | none =>
          rw [read] at h
          obtain ⟨⟨shorter, later⟩, found, same⟩ := Option.map_eq_some_iff.1 h
          cases same
          have first := ih found
          refine ⟨spells_cons_iff.2 (.inr ⟨shorter, rfl, first.toSpells⟩), ?_⟩
          intro other marker' spells
          rcases spells_cons_iff.1 spells with ⟨_, found⟩ | ⟨others, rfl, later⟩
          · rw [read] at found
            cases found
          · exact Nat.succ_le_succ (first.shortest others marker' later)

theorem findMarker?_eq_some_iff :
    findMarker? line = some (file, marker) ↔ SpellsFirst file marker line := by
  refine ⟨spellsFirst_of_findMarker?, fun first => ?_⟩
  cases found : findMarker? line with
  | none => exact absurd first.toSpells (findMarker?_eq_none_iff.1 found file marker)
  | some pair =>
      obtain ⟨rfl, rfl⟩ := (spellsFirst_of_findMarker? found).unique first
      rfl

def ofParts (file : Text) (marker : Marker) (line : Text) : Diagnostic where
  file := file
  line := Text.digitsValue marker.line
  column := Text.digitsValue marker.column
  code := marker.code
  message := marker.message
  wholeLine := line

/-- The diagnostics that stand on lines, one for each line that is a file and a marker. -/
inductive Reads : List Text → List Diagnostic → Prop
  | nil : Reads [] []
  | skip {line : Text} {lines : List Text} {diagnostics : List Diagnostic}
      (none_fits : ∀ file marker, ¬ Spells file marker (Text.trim line))
      (rest : Reads lines diagnostics) : Reads (line :: lines) diagnostics
  | read {line file : Text} {marker : Marker} {lines : List Text} {diagnostics : List Diagnostic}
      (first : SpellsFirst file marker (Text.trim line)) (rest : Reads lines diagnostics) :
      Reads (line :: lines) (ofParts file marker (Text.trim line) :: diagnostics)

def Short (lines : List Text) : Prop :=
  ∀ line ∈ lines, ∀ file marker, SpellsFirst file marker (Text.trim line) →
    marker.line.length ≤ TooManyDigits.limit ∧ marker.column.length ≤ TooManyDigits.limit

theorem short_of_length_le (h : ∀ line ∈ lines, line.length ≤ TooManyDigits.limit) :
    Short lines := by
  intro line listed file marker first
  have within := h line listed
  have trimmed := (Text.trim_isInfix line).length_le
  have split := congrArg List.length first.eq_append
  simp only [Marker.text, List.length_append] at split
  omega

theorem ofLine?_of_none (h : ∀ file marker, ¬ Spells file marker (Text.trim line)) :
    ofLine? line = .ok none := by
  rw [ofLine?, findMarker?_eq_none_iff.2 h]

theorem ofLine?_of_spellsFirst (first : SpellsFirst file marker (Text.trim line))
    (number : marker.line.length ≤ TooManyDigits.limit)
    (column : marker.column.length ≤ TooManyDigits.limit) :
    ofLine? line = .ok (some (ofParts file marker (Text.trim line))) := by
  rw [ofLine?, findMarker?_eq_some_iff.2 first]
  simp only [readDigits_of_le (Nat.not_lt.2 number), readDigits_of_le (Nat.not_lt.2 column)]
  rfl

theorem ofLines_iff_reads (short : Short lines) :
    ofLines lines = .ok diagnostics ↔ Reads lines diagnostics := by
  induction lines generalizing diagnostics with
  | nil =>
      constructor
      · intro ran
        cases ran
        exact .nil
      · rintro ⟨⟩
        rfl
  | cons line lines ih =>
      obtain ⟨here, later⟩ := List.forall_mem_cons.1 short
      rw [ofLines_cons_iff]
      cases found : findMarker? (Text.trim line) with
      | none =>
          have none_fits := findMarker?_eq_none_iff.1 found
          rw [ofLine?_of_none none_fits]
          constructor
          · rintro ⟨_, others, ⟨⟩, ran, rfl⟩
            exact .skip none_fits ((ih later).1 ran)
          · rintro (_ | ⟨_, rest⟩ | ⟨first, _⟩)
            · exact ⟨none, diagnostics, rfl, (ih later).2 rest, rfl⟩
            · exact absurd first.toSpells (none_fits _ _)
      | some pair =>
          obtain ⟨file, marker⟩ := pair
          have first := findMarker?_eq_some_iff.1 found
          obtain ⟨number, column⟩ := here file marker first
          rw [ofLine?_of_spellsFirst first number column]
          constructor
          · rintro ⟨_, others, ⟨⟩, ran, rfl⟩
            exact .read first ((ih later).1 ran)
          · rintro (_ | ⟨none_fits, _⟩ | ⟨first', rest⟩)
            · exact absurd first.toSpells (none_fits _ _)
            · obtain ⟨rfl, rfl⟩ := first.unique first'
              exact ⟨some _, _, rfl, (ih later).2 rest, rfl⟩

theorem Short.returns (short : Short lines) : ∃ diagnostics, ofLines lines = .ok diagnostics := by
  refine ofLines_returns_iff.2 fun line listed => ofLine?_returns_iff.2 fun file marker found => ?_
  have few := short line listed file marker (findMarker?_eq_some_iff.1 found)
  omega

def decimalMarker (diagnostic : Diagnostic) : Marker where
  line := Text.ofInt diagnostic.line
  column := Text.ofInt diagnostic.column
  code := diagnostic.code
  message := diagnostic.message

def written (diagnostic : Diagnostic) : Text :=
  diagnostic.file ++ diagnostic.decimalMarker.text

structure Writable (diagnostic : Diagnostic) : Prop where
  file : Text.Bare diagnostic.file
  unmarked : ¬ "): error ".toList <:+: diagnostic.file
  line : 0 ≤ diagnostic.line ∧ (Text.ofInt diagnostic.line).length ≤ TooManyDigits.limit
  column : 0 ≤ diagnostic.column ∧ (Text.ofInt diagnostic.column).length ≤ TooManyDigits.limit
  code_ne_nil : diagnostic.code ≠ []
  code_chars : ∀ c ∈ diagnostic.code, isCodeChar c = true
  message : Text.Bare diagnostic.message

theorem Marker.WellFormed.exists_opening (fit : marker.WellFormed) :
    ∃ opening rest, marker.text = '(' :: (opening ++ rest) ∧ '(' ∉ opening ∧
      "): error ".toList <:+ opening := by
  refine ⟨marker.line ++ "," ++ marker.column ++ "): error ",
    marker.code ++ ": " ++ marker.message, by simp [Marker.text], ?_, List.suffix_append _ _⟩
  have digit : Text.isDigit '(' = false := by decide
  have line : '(' ∉ marker.line := fun inside => by simp [fit.line_digits _ inside] at digit
  have column : '(' ∉ marker.column := fun inside => by simp [fit.column_digits _ inside] at digit
  simp [line, column]

theorem Spells.first (h : Spells file marker line) (unmarked : ¬ "): error ".toList <:+: file) :
    SpellsFirst file marker line := by
  -- An earlier marker would stand in the file with all that goes before its code: the marker behind
  -- the file opens with a parenthesis, and no such part has a second one.
  refine ⟨h, fun other marker' earlier => Nat.le_of_not_lt fun shorter => unmarked ?_⟩
  obtain ⟨opening, rest, text, single, ends⟩ := earlier.fit.exists_opening
  obtain ⟨_, _, text', _, _⟩ := h.fit.exists_opening
  have same := h.eq_append.symm.trans earlier.eq_append
  rcases List.append_eq_append_iff.1 same with ⟨between, rfl, _⟩ | ⟨between, rfl, split⟩
  · rw [List.length_append] at shorter
    omega
  · rw [text, text'] at split
    cases between with
    | nil => simp at shorter
    | cons c between =>
        rw [List.cons_append, List.cons.injEq] at split
        obtain ⟨rfl, split⟩ := split
        have starts : opening.isPrefixOf (between ++ '(' :: _) :=
          List.isPrefixOf_iff_prefix.2 ⟨rest, split⟩
        rw [Text.isPrefixOf_append_of_not_mem single, List.isPrefixOf_iff_prefix] at starts
        exact (ends.isInfix.trans starts.isInfix).trans ⟨other ++ ['('], [], by simp⟩

theorem Writable.decimalMarker_wellFormed (h : Writable diagnostic) :
    diagnostic.decimalMarker.WellFormed where
  line_ne_nil := Text.ofInt_ne_nil h.line.1
  line_digits c member := by
    rw [Text.isDigit, Text.digitValue?_of_isDigit (Text.isDigit_of_mem_ofInt h.line.1 member)]
    rfl
  column_ne_nil := Text.ofInt_ne_nil h.column.1
  column_digits c member := by
    rw [Text.isDigit, Text.digitValue?_of_isDigit (Text.isDigit_of_mem_ofInt h.column.1 member)]
    rfl
  code_ne_nil := h.code_ne_nil
  code_chars := h.code_chars
  message_ne_nil := h.message.ne_nil

theorem Writable.bare_written (h : Writable diagnostic) : Text.Bare diagnostic.written := by
  have plain : ∀ c ∈ "(" ++ Text.ofInt diagnostic.line ++ "," ++ Text.ofInt diagnostic.column ++
      "): error " ++ diagnostic.code ++ ": ", Text.isTerminator c = false := by
    simp only [List.mem_append]
    rintro c ((((((inside | inside) | inside) | inside) | inside) | inside) | inside)
    · exact Text.unbroken_of_all (by decide) c inside
    · exact Text.noTerminator_of_isDigit (Text.isDigit_of_mem_ofInt h.line.1 inside)
    · exact Text.unbroken_of_all (by decide) c inside
    · exact Text.noTerminator_of_isDigit (Text.isDigit_of_mem_ofInt h.column.1 inside)
    · exact Text.unbroken_of_all (by decide) c inside
    · have char := h.code_chars c inside
      rw [isCodeChar, Bool.and_eq_true] at char
      exact Text.noTerminator_of_not_blank (by simpa using char.1)
    · exact Text.unbroken_of_all (by decide) c inside
  have bare := h.file.around h.message plain
  simpa [written, decimalMarker, Marker.text] using bare

theorem Writable.spellsFirst (h : Writable diagnostic) :
    SpellsFirst diagnostic.file diagnostic.decimalMarker (Text.trim diagnostic.written) := by
  rw [h.bare_written.trimmed]
  exact Spells.first ⟨h.file.ne_nil, h.decimalMarker_wellFormed, rfl⟩ h.unmarked

theorem Writable.ofParts_eq (h : Writable diagnostic) :
    ofParts diagnostic.file diagnostic.decimalMarker (Text.trim diagnostic.written) =
      { diagnostic with wholeLine := diagnostic.written } := by
  rw [h.bare_written.trimmed, ofParts, decimalMarker]
  simp only [Text.digitsValue_ofInt h.line.1, Text.digitsValue_ofInt h.column.1]

theorem short_written (h : ∀ diagnostic ∈ diagnostics, Writable diagnostic) :
    Short (diagnostics.map written) := by
  intro line listed file marker first
  obtain ⟨diagnostic, member, rfl⟩ := List.mem_map.1 listed
  obtain ⟨_, rfl⟩ := first.unique (h diagnostic member).spellsFirst
  exact ⟨(h diagnostic member).line.2, (h diagnostic member).column.2⟩

theorem reads_written (h : ∀ diagnostic ∈ diagnostics, Writable diagnostic) :
    Reads (diagnostics.map written)
      (diagnostics.map fun diagnostic => { diagnostic with wholeLine := diagnostic.written }) := by
  induction diagnostics with
  | nil => exact .nil
  | cons diagnostic rest ih =>
      obtain ⟨here, later⟩ := List.forall_mem_cons.1 h
      rw [List.map_cons, List.map_cons, ← here.ofParts_eq]
      exact .read here.spellsFirst (ih later)

theorem parse_accepts_exactly :
    (∀ output, Short (Text.lines output) → (∃ diagnostics, parse output = .ok diagnostics) ∧
      ∀ diagnostics, parse output = .ok diagnostics ↔ Reads (Text.lines output) diagnostics) ∧
    ∀ diagnostics : List Diagnostic, (∀ diagnostic ∈ diagnostics, Writable diagnostic) →
      parse (Text.join ['\n'] (diagnostics.map written)) =
        .ok (diagnostics.map fun diagnostic =>
          { diagnostic with wholeLine := diagnostic.written }) := by
  refine ⟨fun output short => ⟨short.returns, fun _ => ofLines_iff_reads short⟩, ?_⟩
  intro diagnostics writable
  have bare : ∀ line ∈ diagnostics.map written, line ≠ [] ∧
      ∀ c ∈ line, Text.isTerminator c = false := by
    intro line listed
    obtain ⟨diagnostic, member, rfl⟩ := List.mem_map.1 listed
    have plain := (writable diagnostic member).bare_written
    exact ⟨plain.ne_nil, plain.unbroken⟩
  rw [parse, Text.lines_join bare, ofLines_iff_reads (short_written writable)]
  exact reads_written writable

theorem parse_accepts_exactly_routed :
    let output : Text :=
      "Found 1 error.\n\n  app/(group)/a.tsx(2,13): error TS2304: at b(1,2): error E: x \r\n".toList
    let routed : Diagnostic :=
      ⟨"app/(group)/a.tsx".toList, 2, 13, "TS2304".toList, "at b(1,2): error E: x".toList, []⟩
    Short (Text.lines output) ∧
      (∃ diagnostics, parse output = .ok diagnostics) ∧
      (∀ diagnostics, parse output = .ok diagnostics ↔ Reads (Text.lines output) diagnostics) ∧
      Writable routed ∧
      parse (Text.join ['\n'] [routed.written, routed.written]) =
        .ok [{ routed with wholeLine := routed.written },
          { routed with wholeLine := routed.written }] := by
  intro output routed
  have short : Short (Text.lines output) := short_of_length_le (by decide)
  have writable : Writable routed := {
    file := ⟨by decide, by decide, Text.unbroken_of_all (by decide)⟩
    unmarked := fun found => absurd (Text.occursIn_iff_infix.2 found) (by decide)
    line := by decide
    column := by decide
    code_ne_nil := by decide
    code_chars := List.all_eq_true.1 (by decide)
    message := ⟨by decide, by decide, Text.unbroken_of_all (by decide)⟩ }
  obtain ⟨returns, reads⟩ := parse_accepts_exactly.1 output short
  exact ⟨short, returns, reads, writable,
    parse_accepts_exactly.2 [routed, routed] (by simp [writable])⟩

end Diagnostic

end DiagnosticRepair
