import DiagnosticRepair.Proofs.Disk.Creation
import DiagnosticRepair.Settings.Load

namespace DiagnosticRepair.Settings

variable {α β V C X : Type} {library : Library V C X} {disk : Disk} {project file : Path}
  {settings : Settings}

def Fails (result : Except (LoadError V C X) α) : Prop :=
  ∃ e, result = .error e ∧ ∀ r, e ≠ .config r

theorem not_fails_ok (value : α) : ¬ Fails (.ok value : Except (LoadError V C X) α) := by
  rintro ⟨e, ended, _⟩
  cases ended

theorem not_fails_config (r : Rejection V C) :
    ¬ Fails (.error (.config r) : Except (LoadError V C X) α) := by
  rintro ⟨e, ended, apart⟩
  exact apart r (Except.error.inj ended).symm

theorem fails_error_iff {e : LoadError V C X} :
    Fails (.error e : Except (LoadError V C X) α) ↔ ∀ r, e ≠ .config r :=
  ⟨fun ⟨_, ended, apart⟩ => Except.error.inj ended ▸ apart, fun apart => ⟨e, rfl, apart⟩⟩

theorem fails_bind_iff {first : Except (LoadError V C X) α} {next : α → Except (LoadError V C X) β} :
    Fails (first >>= next) ↔ Fails first ∨ ∃ value, first = .ok value ∧ Fails (next value) := by
  cases first with
  | error e =>
      show Fails (.error e) ↔ _
      rw [fails_error_iff, fails_error_iff]
      exact ⟨.inl, fun failed => failed.resolve_right fun ⟨_, ended, _⟩ => by cases ended⟩
  | ok value =>
      show Fails (next value) ↔ _
      refine ⟨fun failed => .inr ⟨value, rfl, failed⟩, ?_⟩
      rintro (failed | ⟨_, ended, failed⟩)
      · exact absurd failed (not_fails_ok value)
      · rwa [Except.ok.inj ended]

theorem bind_eq_ok_iff {ε : Type} {first : Except ε α} {next : α → Except ε β} {result : β} :
    first >>= next = .ok result ↔ ∃ value, first = .ok value ∧ next value = .ok result := by
  cases first <;> simp [bind, Except.bind]

theorem mapError_eq_ok_iff {ε δ : Type} {f : ε → δ} {result : Except ε α} {value : α} :
    result.mapError f = .ok value ↔ result = .ok value := by
  cases result with
  | ok found =>
      show Except.ok found = .ok value ↔ Except.ok found = .ok value
      simp
  | error e => exact iff_of_false (fun ended => by cases ended) fun ended => by cases ended

theorem readDocument_of_directory (library : Library V C X)
    (there : disk.nodeAt? file = some .directory) :
    ∃ r, readDocument library disk file = .error (.config r) := by
  obtain ⟨location, leads, found⟩ := Disk.nodeAt?_eq_some_iff.1 there
  have noNul := Disk.noNul_of_nodeAt? there
  refine ⟨.unreadable (.refused .isDirectory file), ?_⟩
  simp [readDocument, Disk.read, noNul, Disk.node_of_place? leads, found]

theorem readDocument_of_file {bytes : Bytes} (library : Library V C X)
    (there : disk.nodeAt? file = some (.file bytes)) :
    readDocument library disk file = (library.read bytes).mapError .ofReadError := by
  rw [readDocument, Disk.read_eq_ok_iff.2 there]

theorem fails_ofReadError_iff {result : Except (ReadError X) V} :
    Fails (result.mapError LoadError.ofReadError : Except (LoadError V C X) V) ↔
      ∃ e, result = .error e ∧ ∀ message, e ≠ .malformed message := by
  cases result with
  | ok document =>
      refine iff_of_false (not_fails_ok document) ?_
      rintro ⟨_, ended, _⟩
      cases ended
  | error e =>
      show Fails (.error (LoadError.ofReadError e)) ↔ _
      rw [fails_error_iff]
      cases e <;> simp [LoadError.ofReadError]

/-- Bytes of which the reader neither gives a value nor says that they are malformed. -/
inductive Unreadable (library : Library V C X) (bytes : Bytes) : Prop where
  | bytes : (∀ text, bytes ≠ Utf8.encode text) →
      (∀ message, library.read bytes ≠ .error (.malformed message)) → Unreadable library bytes
  | document : ∀ {text : Text} {e : ReadError X}, bytes = Utf8.encode text →
      library.read bytes = .error e → (∀ message, e ≠ .malformed message) → Unreadable library bytes

theorem unreadable_iff (utf8 : library.ReadsUtf8) {bytes : Bytes} :
    Unreadable library bytes ↔
      ∃ e, library.read bytes = .error e ∧ ∀ message, e ≠ .malformed message := by
  constructor
  · rintro (⟨garbled, apart⟩ | ⟨_, refused, apart⟩)
    · cases read : library.read bytes with
      | ok document =>
          obtain ⟨text, same⟩ := utf8 _ _ read
          exact absurd same (garbled text)
      | error e => exact ⟨e, rfl, fun message same => apart message (by rw [read, same])⟩
    · exact ⟨_, refused, apart⟩
  · rintro ⟨e, refused, apart⟩
    by_cases written : ∃ text, bytes = Utf8.encode text
    · obtain ⟨text, same⟩ := written
      exact .document same refused apart
    · refine .bytes (fun text same => written ⟨text, same⟩) fun message malformed => ?_
      exact apart message (Except.error.inj (refused.symm.trans malformed))

theorem not_fails_fieldsOf (document : V) : ¬ Fails (fieldsOf library document) := by
  unfold fieldsOf
  split
  · split
    · exact not_fails_ok _
    · exact not_fails_config _
  · exact not_fails_ok _

inductive Rootless (library : Library V C X) (value : V) : Prop where
  | display : ∀ {x : X}, library.display value = .error x → Rootless library value
  | nul : ∀ {text : Text}, library.display value = .ok text →
      (Path.ofText text).isAbsolute = false → (Path.ofText text).hasNul = true →
      Rootless library value

theorem rootless_iff {value : V} : Rootless library value ↔
    (∃ x, library.display value = .error x) ∨ ∃ text, library.display value = .ok text ∧
      (Path.ofText text).isAbsolute = false ∧ (Path.ofText text).hasNul = true := by
  constructor
  · rintro (refused | ⟨shown, relative, nul⟩)
    · exact .inl ⟨_, refused⟩
    · exact .inr ⟨_, shown, relative, nul⟩
  · rintro (⟨_, refused⟩ | ⟨_, shown, relative, nul⟩)
    · exact .display refused
    · exact .nul shown relative nul

theorem fails_other_iff {result : Except X α} :
    Fails (result.mapError .other : Except (LoadError V C X) α) ↔ ∃ x, result = .error x := by
  cases result with
  | ok value => exact iff_of_false (not_fails_ok value) fun ⟨_, ended⟩ => by cases ended
  | error x => exact iff_of_true (fails_error_iff.2 fun r same => by cases same) ⟨x, rfl⟩

theorem fails_resolvePath_iff {base path : Path} :
    Fails (resolvePath disk base path : Except (LoadError V C X) Path) ↔
      (base ++ path).hasNul = true := by
  simp only [resolvePath]
  split
  · exact iff_of_true (fails_error_iff.2 fun r same => by cases same) ‹_›
  · exact iff_of_false (not_fails_ok _) ‹_›

theorem chooseRoot_fails_iff {named : Option V} (noNul : project.hasNul = false) :
    Fails (chooseRoot library disk project named) ↔
      ∃ value, named = some value ∧ library.isTruthy value = true ∧ Rootless library value := by
  cases named with
  | none => simp [chooseRoot, not_fails_ok]
  | some value =>
      simp only [Option.some.injEq, exists_eq_left', chooseRoot]
      cases truthy : library.isTruthy value with
      | false => simp [not_fails_ok]
      | true =>
          simp only [if_true, true_and, fails_bind_iff, mapError_eq_ok_iff, fails_other_iff,
            rootless_iff]
          refine or_congr_right (exists_congr fun text => and_congr_right fun _ => ?_)
          cases absolute : (Path.ofText text).isAbsolute with
          | true => exact iff_of_false (not_fails_ok _) fun both => by cases both.1
          | false =>
              simp only [Bool.false_eq_true, if_false, fails_resolvePath_iff, true_and,
                Path.hasNul_append absolute, noNul, Bool.false_or]

theorem isAbsolute_of_chooseRoot {named : Option V} {root : Path}
    (absolute : project.isAbsolute = true)
    (chosen : chooseRoot library disk project named = .ok root) : root.isAbsolute = true := by
  cases named with
  | none =>
      cases chosen
      exact absolute
  | some value =>
      simp only [chooseRoot] at chosen
      split at chosen
      · obtain ⟨text, _, chosen⟩ := bind_eq_ok_iff.1 chosen
        split at chosen
        · cases chosen
          assumption
        · simp only [resolvePath] at chosen
          split at chosen
          · cases chosen
          · cases chosen
            rfl
      · cases chosen
        exact absolute

theorem chooseRoot_error {named : Option V} {e : LoadError V C X}
    (refused : chooseRoot library disk project named = .error e) : ∀ r, e ≠ .config r := by
  rintro r rfl
  cases named with
  | none => cases refused
  | some value =>
      simp only [chooseRoot] at refused
      split at refused
      · cases shown : library.display value with
        | error x =>
            rw [shown] at refused
            cases refused
        | ok text =>
            rw [shown] at refused
            change (if _ then _ else _) = _ at refused
            split at refused
            · cases refused
            · simp only [resolvePath] at refused
              split at refused <;> cases refused
      · cases refused

theorem not_fails_invalid (checked : Checked V C α) (file : Path) :
    ¬ Fails (checked.mapError fun issues => .config (.invalid file issues) :
      Except (LoadError V C X) α) := by
  cases checked with
  | ok value => exact not_fails_ok value
  | error issues => exact not_fails_config _

theorem ofDocument_fails_iff {document : V} (noNul : project.hasNul = false) :
    Fails (ofDocument library disk project file document) ↔
      ∃ entries, fieldsOf library document = .ok entries ∧
        ((∃ value, (splitRoot library entries).1 = some value ∧ library.isTruthy value = true ∧
          Rootless library value) ∨
        ∃ entry ∈ (splitRoot library entries).2, library.isText entry.1 = false) := by
  unfold ofDocument
  simp only [fails_bind_iff, not_fails_fieldsOf, false_or]
  refine exists_congr fun entries => and_congr_right fun _ => ?_
  rw [← @chooseRoot_fails_iff _ _ _ library disk project _ noNul]
  cases chosen : chooseRoot library disk project (splitRoot library entries).1 with
  | error e =>
      -- Where the root is refused, it does not matter what the other fields are named by.
      have failed : Fails (.error e : Except (LoadError V C X) Path) :=
        fails_error_iff.2 (chooseRoot_error chosen)
      exact iff_of_true (.inl failed) (.inl failed)
  | ok root =>
      simp only [not_fails_ok, false_or, Except.ok.injEq, exists_eq_left']
      by_cases named : (splitRoot library entries).2.all (library.isText ·.1) = true
      · rw [if_pos named]
        refine iff_of_false (not_fails_invalid _ file) ?_
        rintro ⟨entry, member, apart⟩
        cases (List.all_eq_true.1 named entry member).symm.trans apart
      · rw [if_neg named]
        refine iff_of_true (fails_error_iff.2 fun r same => by cases same) ?_
        simpa using named

def configFile (disk : Disk) : Path :=
  disk.here.path ++ Path.ofText fileName

def HasFields (library : Library V C X) (disk : Disk) (entries : List (V × V)) : Prop :=
  ∃ bytes document, disk.nodeAt? (configFile disk) = some (.file bytes) ∧
    library.read bytes = .ok document ∧ fieldsOf library document = .ok entries

/-- What a configuration is not held responsible for. -/
inductive LoadStops (library : Library V C X) (disk : Disk) : Prop where
  | path : disk.TooLong (configFile disk) → LoadStops library disk
  | document : ∀ {bytes : Bytes}, disk.nodeAt? (configFile disk) = some (.file bytes) →
      Unreadable library bytes → LoadStops library disk
  | root : ∀ {entries : List (V × V)} {value : V}, HasFields library disk entries →
      (splitRoot library entries).1 = some value → library.isTruthy value = true →
      Rootless library value → LoadStops library disk
  | field : ∀ {entries : List (V × V)} {entry : V × V}, HasFields library disk entries →
      entry ∈ (splitRoot library entries).2 → library.isText entry.1 = false →
      LoadStops library disk

theorem LoadStops.exists_file (stops : LoadStops library disk)
    (short : ¬ disk.TooLong (configFile disk)) :
    ∃ bytes, disk.nodeAt? (configFile disk) = some (.file bytes) := by
  obtain path | ⟨found, _⟩ | ⟨⟨_, _, found, _⟩, _, _, _⟩ | ⟨⟨_, _, found, _⟩, _, _⟩ := stops
  · exact absurd path short
  all_goals exact ⟨_, found⟩

theorem load_eq (library : Library V C X) (disk : Disk) : load library disk ⟨.here, []⟩ = (do
    if ← (disk.pathExists (configFile disk)).mapError .access then
      ofDocument library disk disk.here.path (configFile disk)
        (← readDocument library disk (configFile disk))
    else return ofRoot disk.here.path) := rfl

theorem load_of_tooLong (library : Library V C X) (long : disk.TooLong (configFile disk)) :
    load library disk ⟨.here, []⟩ =
      .error (.access (.refused .nameTooLong (configFile disk))) := by
  rw [load_eq, Disk.pathExists, Disk.test_of_tooLong _ long]
  rfl

theorem load_of_nothing (library : Library V C X) (short : ¬ disk.TooLong (configFile disk))
    (nothing : disk.nodeAt? (configFile disk) = none) :
    load library disk ⟨.here, []⟩ = .ok (ofRoot disk.here.path) := by
  rw [load_eq, Disk.pathExists, Disk.test_of_not_tooLong _ short, nothing]
  rfl

theorem load_of_node {node : Node} (library : Library V C X)
    (there : disk.nodeAt? (configFile disk) = some node) :
    load library disk ⟨.here, []⟩ = readDocument library disk (configFile disk) >>=
      ofDocument library disk disk.here.path (configFile disk) := by
  rw [load_eq, Disk.pathExists, Disk.test_of_not_tooLong _ (Disk.not_tooLong_of_nodeAt? there), there]
  rfl

theorem noNul_here {node : Node} (there : disk.nodeAt? (configFile disk) = some node) :
    disk.here.path.hasNul = false := by
  have noNul := Disk.noNul_of_nodeAt? there
  have relative : (Path.ofText fileName).isAbsolute = false := by decide
  rw [configFile, Path.hasNul_append relative, Bool.or_eq_false_iff] at noNul
  exact noNul.1

theorem load_fails_iff (utf8 : library.ReadsUtf8) :
    Fails (load library disk ⟨.here, []⟩) ↔ LoadStops library disk := by
  by_cases long : disk.TooLong (configFile disk)
  · rw [load_of_tooLong library long, fails_error_iff]
    exact iff_of_true (fun r same => by cases same) (.path long)
  · rcases there : disk.nodeAt? (configFile disk) with _ | _ | bytes
    · rw [load_of_nothing library long there]
      refine iff_of_false (not_fails_ok _) fun stops => ?_
      obtain ⟨_, found⟩ := stops.exists_file long
      cases there.symm.trans found
    · obtain ⟨r, refused⟩ := readDocument_of_directory library there
      rw [load_of_node library there, refused]
      refine iff_of_false (not_fails_config r) fun stops => ?_
      obtain ⟨_, found⟩ := stops.exists_file long
      cases there.symm.trans found
    · rw [load_of_node library there, fails_bind_iff, readDocument_of_file library there]
      simp only [fails_ofReadError_iff, ← unreadable_iff utf8, mapError_eq_ok_iff,
        ofDocument_fails_iff (noNul_here there)]
      constructor
      · rintro (unreadable | ⟨document, read, entries, fields, ⟨value, named, truthy, rootless⟩ |
          ⟨entry, member, apart⟩⟩)
        · exact .document there unreadable
        · exact .root ⟨bytes, document, there, read, fields⟩ named truthy rootless
        · exact .field ⟨bytes, document, there, read, fields⟩ member apart
      · rintro (path | ⟨found, unreadable⟩ | ⟨⟨_, document, found, read, fields⟩, named, truthy,
          rootless⟩ | ⟨⟨_, document, found, read, fields⟩, member, apart⟩)
        · exact absurd path long
        all_goals cases there.symm.trans found
        · exact .inl unreadable
        · exact .inr ⟨document, read, _, fields, .inl ⟨_, named, truthy, rootless⟩⟩
        · exact .inr ⟨document, read, _, fields, .inr ⟨_, member, apart⟩⟩

theorem both_eq_ok {γ : Type} {f : α → β → γ} {first : Checked V C α} {second : Checked V C β}
    {result : γ} (h : Checked.both f first second = .ok result) :
    ∃ a b, first = .ok a ∧ second = .ok b ∧ f a b = result := by
  cases first <;> cases second <;> cases h
  exact ⟨_, _, rfl, rfl, rfl⟩

variable {root : Path} {values : List (V × V)}

theorem checked_of_ofValues (h : ofValues library root values = .ok settings) :
    checkField library values rootField root (checkPath library rootField) = .ok settings.root ∧
    checkField library values checkerField (ofRoot root).checkerCommand
      (checkCommand library checkerField) = .ok settings.checkerCommand ∧
    checkField library values testField (ofRoot root).testCommand
      (checkCommand library testField) = .ok settings.testCommand := by
  unfold ofValues at h
  obtain ⟨_, _, withLimit, _, rfl⟩ := both_eq_ok h
  obtain ⟨_, _, withComponents, _, rfl⟩ := both_eq_ok withLimit
  obtain ⟨_, _, withTestRoot, _, rfl⟩ := both_eq_ok withComponents
  obtain ⟨_, _, withTest, _, rfl⟩ := both_eq_ok withTestRoot
  obtain ⟨_, _, withChecker, tests, rfl⟩ := both_eq_ok withTest
  obtain ⟨_, _, start, checker, rfl⟩ := both_eq_ok withChecker
  exact ⟨start, checker, tests⟩

theorem root_of_ofValues (unnamed : ∀ entry ∈ values, library.text? entry.1 ≠ some rootField)
    (h : ofValues library root values = .ok settings) : settings.root = root := by
  have none : values.find? (library.text? ·.1 = some rootField) = none := by
    simpa using unnamed
  have start := (checked_of_ofValues h).1
  rw [checkField, none] at start
  exact (Except.ok.inj start).symm

theorem checkField_of_ok {field : Text} {standard value : α} {check : V → Checked V C α}
    (h : checkField library values field standard check = .ok value) :
    value = standard ∨ ∃ written, check written = .ok value := by
  unfold checkField at h
  split at h
  · exact .inl (Except.ok.inj h).symm
  · exact .inr ⟨_, h⟩

theorem ne_nil_of_checkCommand {field : Text} {value : V} {words : List Text}
    (h : checkCommand library field value = .ok words) : words ≠ [] := by
  obtain ⟨given, _, kept⟩ := bind_eq_ok_iff.1 h
  split at kept
  · cases kept
  · cases kept
    simpa using ‹¬ words.isEmpty = true›

theorem ne_nil_ofRoot (root : Path) :
    (ofRoot root).checkerCommand ≠ [] ∧ (ofRoot root).testCommand ≠ [] :=
  ⟨List.cons_ne_nil _ _, List.cons_ne_nil _ _⟩

theorem ne_nil_of_ofValues (h : ofValues library root values = .ok settings) :
    settings.checkerCommand ≠ [] ∧ settings.testCommand ≠ [] := by
  obtain ⟨_, checker, tests⟩ := checked_of_ofValues h
  constructor
  · obtain same | ⟨_, checked⟩ := checkField_of_ok checker
    · rw [same]
      exact (ne_nil_ofRoot root).1
    · exact ne_nil_of_checkCommand checked
  · obtain same | ⟨_, checked⟩ := checkField_of_ok tests
    · rw [same]
      exact (ne_nil_ofRoot root).2
    · exact ne_nil_of_checkCommand checked

theorem source_of_load (loaded : load library disk ⟨.here, []⟩ = .ok settings) :
    settings = ofRoot disk.here.path ∨ ∃ root values, root.isAbsolute = true ∧
      (∀ entry ∈ values, library.text? entry.1 ≠ some rootField) ∧
      ofValues library root values = .ok settings := by
  by_cases long : disk.TooLong (configFile disk)
  · rw [load_of_tooLong library long] at loaded
    cases loaded
  · cases there : disk.nodeAt? (configFile disk) with
    | none =>
        rw [load_of_nothing library long there] at loaded
        exact .inl (Except.ok.inj loaded).symm
    | some node =>
        simp only [load_of_node library there, ofDocument, bind_eq_ok_iff] at loaded
        obtain ⟨_, _, entries, _, root, chosen, checked⟩ := loaded
        split at checked
        · refine .inr ⟨root, _, isAbsolute_of_chooseRoot rfl chosen, ?_,
            mapError_eq_ok_iff.1 checked⟩
          intro entry member same
          have apart := (List.mem_filter.1 member).2
          simp [isRoot, same] at apart
        · cases checked

theorem isAbsolute_of_load (loaded : load library disk ⟨.here, []⟩ = .ok settings) :
    settings.root.isAbsolute = true := by
  obtain rfl | ⟨root, values, absolute, unnamed, checked⟩ := source_of_load loaded
  · rfl
  · rwa [root_of_ofValues unnamed checked]

theorem ne_nil_of_load (loaded : load library disk ⟨.here, []⟩ = .ok settings) :
    settings.checkerCommand ≠ [] ∧ settings.testCommand ≠ [] := by
  obtain rfl | ⟨root, values, _, _, checked⟩ := source_of_load loaded
  · exact ne_nil_ofRoot _
  · exact ne_nil_of_ofValues checked

end DiagnosticRepair.Settings
