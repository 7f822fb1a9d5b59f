import QueryAudit.Corpus.Load
import QueryAudit.Proofs.Results

/-! What becomes of the files that are loaded. A file is parsed, fails with an error that is noted,
or halts the loading: its bytes are no text, its text breaks off in an escape sequence, or its path
is none. So the others are kept apart from a bad file exactly as long as no file halts. -/
namespace QueryAudit

/-- The text that bytes encode, once all its line ends are line feeds. -/
def Encodes (content : ByteArray) (text : String) : Prop :=
  ∃ raw : String, raw.toUTF8 = content ∧ String.ofList (unifyLineEnds raw.toList) = text

theorem fromUTF8?_eq_some_iff {content : ByteArray} {raw : String} :
    String.fromUTF8? content = some raw ↔ raw.toUTF8 = content := by
  rw [String.fromUTF8?]
  constructor
  · intro decoded
    split at decoded
    · cases decoded
      rfl
    · cases decoded
  · intro encoded
    subst encoded
    exact dif_pos raw.isValidUTF8

theorem decodeText?_eq_some_iff {content : ByteArray} {text : String} :
    decodeText? content = some text ↔ Encodes content text := by
  simp only [decodeText?, Option.map_eq_some_iff, fromUTF8?_eq_some_iff, Encodes]

theorem decodeText?_eq_none_iff {content : ByteArray} :
    decodeText? content = none ↔ ∀ text, ¬ Encodes content text := by
  rw [Option.eq_none_iff_forall_ne_some]
  exact forall_congr' fun text => not_congr decodeText?_eq_some_iff

/-- The text that stands in the file at a path. -/
def FileSystem.Holds (fs : FileSystem) (path : Path) (text : String) : Prop :=
  ∃ content, fs.find path = .ok (.file content) ∧ Encodes content text

/-- A file that can be read, decoded and parsed. -/
def Parses (fs : FileSystem) (path : Path) (document : SourceDocument) : Prop :=
  ∃ text, fs.Holds path text ∧ SourceDocument.parse text path.text = .ok document

/-- A file that cannot be read or parsed, with the error that is noted for it. -/
inductive Fails (fs : FileSystem) (path : Path) : DocumentError → Prop where
  | unreadable : fs.read path = .error (.file error) → Fails fs path (.unreadable path.text error)
  | unparsable : fs.Holds path text →
      SourceDocument.parse text path.text = .error (.reported error) → Fails fs path error

/-- A file that nothing behind it is loaded after. -/
inductive Halts (fs : FileSystem) (path : Path) : DocumentFailure → Prop where
  | undecodable : fs.find path = .ok (.file content) → (∀ text, ¬ Encodes content text) →
      Halts fs path .undecodable
  | cutEscape : fs.Holds path text → SourceDocument.parse text path.text = .error .cutEscape →
      Halts fs path .cutEscape
  | nullCharacter : path.hasNull → Halts fs path .nullCharacter

/-- Files in order, each with its document or with its error. -/
inductive Sorts (good : Path → SourceDocument → Prop) (bad : Path → DocumentError → Prop) :
    List Path → List SourceDocument → List DocumentError → Prop where
  | nil : Sorts good bad [] [] []
  | good : good path document → Sorts good bad rest documents errors →
      Sorts good bad (path :: rest) (document :: documents) errors
  | bad : bad path error → Sorts good bad rest documents errors →
      Sorts good bad (path :: rest) documents (error :: errors)

variable {fs : FileSystem} {path : Path} {files : List Path} {document : SourceDocument}
  {error : DocumentError} {failure : DocumentFailure} {documents : List SourceDocument}
  {errors : List DocumentError}

namespace FileSystem

theorem read_of_file {content : ByteArray} (found : fs.find path = .ok (.file content)) :
    fs.read path = .ok content := by
  rw [read, found]

theorem read_eq_ok_iff {content : ByteArray} :
    fs.read path = .ok content ↔ fs.find path = .ok (.file content) := by
  constructor
  · intro done
    rw [read] at done
    split at done <;> cases done
    assumption
  · exact read_of_file

/-- Going down a tree never meets a name that is none. -/
theorem walk_ne_nullCharacter (stack : List FileTree) (parts : List String) :
    walk stack parts ≠ .error .nullCharacter := by
  fun_induction walk stack parts with
  | case7 => split <;> simp
  | _ => simp_all

theorem find_eq_nullCharacter_iff : fs.find path = .error .nullCharacter ↔ path.hasNull := by
  rw [find]
  by_cases null : path.hasNull
  · simp [null]
  · rw [if_neg null]
    refine iff_of_false ?_ null
    split
    · simp
    · exact walk_ne_nullCharacter _ _

theorem read_eq_nullCharacter_iff : fs.read path = .error .nullCharacter ↔ path.hasNull := by
  rw [← find_eq_nullCharacter_iff, read]
  cases fs.find path with
  | ok tree => cases tree <;> simp
  | error absence => cases absence <;> simp

end FileSystem

/-- Parsing stops without a message only where an escape sequence breaks off. -/
theorem SourceDocument.parse_cases (text : String) (path : Label) :
    (∃ document, parse text path = .ok document) ∨
      (∃ error, parse text path = .error (.reported error)) ∨
        parse text path = .error .cutEscape := by
  rw [parse]
  split
  · exact .inl ⟨_, rfl⟩
  · exact .inr (.inl ⟨_, rfl⟩)
  · exact .inr (.inr rfl)

theorem loadFile_of_holds {text : String} (holds : fs.Holds path text) :
    loadFile fs path = SourceDocument.parse text path.text := by
  obtain ⟨content, found, encoded⟩ := holds
  rw [loadFile, FileSystem.read_of_file found]
  simp only [decodeText?_eq_some_iff.mpr encoded]

theorem Parses.loadFile (parses : Parses fs path document) : loadFile fs path = .ok document := by
  obtain ⟨text, holds, parsed⟩ := parses
  rw [loadFile_of_holds holds, parsed]

theorem Fails.loadFile (fails : Fails fs path error) :
    loadFile fs path = .error (.reported error) := by
  cases fails with
  | unreadable unread => rw [QueryAudit.loadFile, unread]
  | unparsable holds failed => rw [loadFile_of_holds holds, failed]

theorem Halts.loadFile (halts : Halts fs path failure) : loadFile fs path = .error failure := by
  cases halts with
  | undecodable found undecodable =>
    rw [QueryAudit.loadFile, FileSystem.read_of_file found]
    simp only [decodeText?_eq_none_iff.mpr undecodable]
  | cutEscape holds cut => rw [loadFile_of_holds holds, cut]
  | nullCharacter null =>
    rw [QueryAudit.loadFile, FileSystem.read_eq_nullCharacter_iff.mpr null]

/-- Each file is parsed, fails or halts. -/
theorem parses_fails_or_halts (fs : FileSystem) (path : Path) :
    (∃ document, Parses fs path document) ∨ (∃ error, Fails fs path error) ∨
      ∃ failure, Halts fs path failure := by
  cases done : fs.read path with
  | error stopped =>
    cases stopped with
    | file e => exact .inr (.inl ⟨_, .unreadable done⟩)
    | nullCharacter =>
      exact .inr (.inr ⟨_, .nullCharacter (FileSystem.read_eq_nullCharacter_iff.mp done)⟩)
  | ok content =>
    have found := FileSystem.read_eq_ok_iff.mp done
    cases decoded : decodeText? content with
    | none => exact .inr (.inr ⟨_, .undecodable found (decodeText?_eq_none_iff.mp decoded)⟩)
    | some text =>
      have holds : fs.Holds path text := ⟨content, found, decodeText?_eq_some_iff.mp decoded⟩
      rcases SourceDocument.parse_cases text path.text with ⟨d, parsed⟩ | ⟨e, failed⟩ | cut
      · exact .inl ⟨d, text, holds, parsed⟩
      · exact .inr (.inl ⟨e, .unparsable holds failed⟩)
      · exact .inr (.inr ⟨_, .cutEscape holds cut⟩)

theorem Halts.not_reported (halts : Halts fs path failure) : failure ≠ .reported error := by
  cases halts <;> simp

theorem not_halts_of_ok (loaded : (loadFile fs path).isOk) : ¬ Halts fs path failure := by
  intro halts
  rw [halts.loadFile] at loaded
  cases loaded

theorem not_halts_of_reported (failed : loadFile fs path = .error (.reported error)) :
    ¬ Halts fs path failure := by
  intro halts
  rw [halts.loadFile, Except.error.injEq] at failed
  exact halts.not_reported failed

theorem Parses.not_halts (parses : Parses fs path document) : ¬ Halts fs path failure :=
  not_halts_of_ok (by rw [parses.loadFile]; rfl)

theorem Fails.not_parses (fails : Fails fs path error) : ¬ Parses fs path document := by
  intro parses
  have both := fails.loadFile.symm.trans parses.loadFile
  cases both

/-- The error of a file names it. -/
theorem Fails.path_eq (fails : Fails fs path error) : error.path = path.text := by
  cases fails with
  | unreadable => rfl
  | unparsable holds failed =>
    rw [SourceDocument.parse] at failed
    split at failed <;> cases failed
    rfl

namespace Sorts

theorem mono {good good' : Path → SourceDocument → Prop} {bad bad' : Path → DocumentError → Prop}
    (sorts : Sorts good bad files documents errors)
    (fewer : ∀ path ∈ files, ∀ d, good path d → good' path d)
    (fewerToo : ∀ path ∈ files, ∀ e, bad path e → bad' path e) :
    Sorts good' bad' files documents errors := by
  induction sorts with
  | nil => exact .nil
  | good here _ ih =>
    rw [List.forall_mem_cons] at fewer fewerToo
    exact .good (fewer.1 _ here) (ih fewer.2 fewerToo.2)
  | bad here _ ih =>
    rw [List.forall_mem_cons] at fewer fewerToo
    exact .bad (fewerToo.1 _ here) (ih fewer.2 fewerToo.2)

/-- Leaving out files that have no document leaves the documents. -/
theorem filter {good : Path → SourceDocument → Prop} {bad : Path → DocumentError → Prop}
    (sorts : Sorts good bad files documents errors) (keep : Path → Bool)
    (kept : ∀ path ∈ files, ∀ d, good path d → keep path) :
    ∃ fewer, fewer.Sublist errors ∧ Sorts good bad (files.filter keep) documents fewer := by
  induction sorts with
  | nil => exact ⟨[], .slnil, .nil⟩
  | good here _ ih =>
    rw [List.forall_mem_cons] at kept
    obtain ⟨fewer, sublist, sorted⟩ := ih kept.2
    rw [List.filter_cons_of_pos (kept.1 _ here)]
    exact ⟨fewer, sublist, .good here sorted⟩
  | @bad path error _ _ _ here _ ih =>
    rw [List.forall_mem_cons] at kept
    obtain ⟨fewer, sublist, sorted⟩ := ih kept.2
    by_cases stays : keep path
    · rw [List.filter_cons_of_pos stays]
      exact ⟨error :: fewer, sublist.cons_cons error, .bad here sorted⟩
    · rw [List.filter_cons_of_neg stays]
      exact ⟨fewer, sublist.cons error, sorted⟩

end Sorts

/-- What is told of an error. -/
def DocumentError.event (error : DocumentError) : Event :=
  .documentLoadFailed error.path error.cause

/-- Files that are parsed or fail are loaded to the end. -/
theorem loadFiles_of_sorts (sorts : Sorts (Parses fs) (Fails fs) files documents errors) :
    loadFiles fs files = ⟨errors.map (·.event), .ok ⟨documents, errors⟩⟩ := by
  induction sorts with
  | nil => rfl
  | good parses _ ih =>
    rw [loadFiles, parses.loadFile]
    simp only [ih]
    rfl
  | bad fails _ ih =>
    rw [loadFiles, fails.loadFile]
    simp only [ih]
    rfl

/-- The first file that halts ends the loading. -/
theorem loadFiles_of_halts {back : List Path}
    (sorts : Sorts (Parses fs) (Fails fs) files documents errors) (halts : Halts fs path failure) :
    loadFiles fs (files ++ path :: back) = ⟨errors.map (·.event), .error failure⟩ := by
  induction sorts with
  | nil =>
    rw [List.nil_append, loadFiles, halts.loadFile]
    cases halts <;> rfl
  | good parses _ ih =>
    rw [List.cons_append, loadFiles, parses.loadFile]
    simp only [ih]
    rfl
  | bad fails _ ih =>
    rw [List.cons_append, loadFiles, fails.loadFile]
    simp only [ih]
    rfl

/-- Files can be sorted up to the first one that halts. -/
theorem sorts_or_halts (fs : FileSystem) (files : List Path) :
    (∃ documents errors, Sorts (Parses fs) (Fails fs) files documents errors) ∨
      ∃ front path back failure documents errors, files = front ++ path :: back ∧
        Sorts (Parses fs) (Fails fs) front documents errors ∧ Halts fs path failure := by
  induction files with
  | nil => exact .inl ⟨[], [], .nil⟩
  | cons path rest ih =>
    rcases parses_fails_or_halts fs path with ⟨d, parses⟩ | ⟨e, fails⟩ | ⟨failure, halts⟩
    · rcases ih with ⟨documents, errors, sorts⟩ |
        ⟨front, stop, back, failure, documents, errors, rfl, sorts, halts⟩
      · exact .inl ⟨d :: documents, errors, .good parses sorts⟩
      · exact .inr ⟨path :: front, stop, back, failure, d :: documents, errors, rfl,
          .good parses sorts, halts⟩
    · rcases ih with ⟨documents, errors, sorts⟩ |
        ⟨front, stop, back, failure, documents, errors, rfl, sorts, halts⟩
      · exact .inl ⟨documents, e :: errors, .bad fails sorts⟩
      · exact .inr ⟨path :: front, stop, back, failure, documents, e :: errors, rfl,
          .bad fails sorts, halts⟩
    · exact .inr ⟨[], path, rest, failure, [], [], rfl, .nil, halts⟩

theorem Sorts.not_halts (sorts : Sorts (Parses fs) (Fails fs) files documents errors) :
    ∀ path ∈ files, ∀ failure, ¬ Halts fs path failure := by
  induction sorts with
  | nil => exact List.forall_mem_nil _
  | good parses _ ih => exact List.forall_mem_cons.mpr ⟨fun _ => parses.not_halts, ih⟩
  | bad fails _ ih =>
    exact List.forall_mem_cons.mpr ⟨fun _ => not_halts_of_reported fails.loadFile, ih⟩

theorem find_congr_read {other : FileSystem} (same : other.find path = fs.find path) :
    other.read path = fs.read path := by
  rw [FileSystem.read, FileSystem.read, same]

theorem Parses.congr {other : FileSystem} (same : other.find path = fs.find path)
    (parses : Parses fs path document) : Parses other path document := by
  obtain ⟨text, ⟨content, found, encoded⟩, parsed⟩ := parses
  exact ⟨text, ⟨content, same.trans found, encoded⟩, parsed⟩

theorem Fails.congr {other : FileSystem} (same : other.find path = fs.find path)
    (fails : Fails fs path error) : Fails other path error := by
  cases fails with
  | unreadable unread => exact .unreadable ((find_congr_read same).trans unread)
  | unparsable holds failed =>
    obtain ⟨content, found, encoded⟩ := holds
    exact .unparsable ⟨content, same.trans found, encoded⟩ failed

/-- Loading as it should be: it comes to an end, with the documents of the files that can be read,
decoded and parsed and with one error for each other file, which names it. -/
def Isolates (fs : FileSystem) (files : List Path) (outcome : Except LoadFailure Loaded) : Prop :=
  ∃ loaded, outcome = .ok loaded ∧
    Sorts (Parses fs) (fun path error => error.path = path.text ∧ ∀ d, ¬ Parses fs path d) files
      loaded.documents loaded.errors

/-- What comes of loading files, where some events were told before. -/
structure Accounts (fs : FileSystem) (files : List Path) (before : List Event)
    (outcome : Logged (Except LoadFailure Loaded)) : Prop where
  /-- Bad files are kept apart from the others exactly if none of them halts. -/
  isolates : Isolates fs files outcome.value ↔ ∀ path ∈ files, ∀ failure, ¬ Halts fs path failure
  /-- The errors say why a file could not be read or parsed. -/
  reasons : ∀ loaded, outcome.value = .ok loaded →
    Sorts (Parses fs) (Fails fs) files loaded.documents loaded.errors
  /-- Each error is told when it is met, and the numbers at the end. -/
  told : ∀ loaded, outcome.value = .ok loaded →
    outcome.events = before ++ loaded.errors.map (·.event) ++
      [.documentsLoaded loaded.documents.length loaded.errors.length]
  /-- Without some of the bad files, wherever and however the others are found, the documents stay
  the same. -/
  removed : ∀ loaded, outcome.value = .ok loaded → ∀ keep : Path → Bool,
    (∀ path ∈ files, ∀ d, Parses fs path d → keep path) →
    ∀ other base patterns, (expandPatterns other base patterns).value = .ok (files.filter keep) →
      (∀ path ∈ files.filter keep, other.find path = fs.find path) →
      ∃ again, (loadDocuments other base patterns).value = .ok again ∧
        again.documents = loaded.documents ∧ again.errors.Sublist loaded.errors
  /-- If there is no result, the first file that halts says why. -/
  stopped : ∀ failure, outcome.value = .error failure → ∃ front path back cause,
    files = front ++ path :: back ∧ (∀ p ∈ front, ∀ f, ¬ Halts fs p f) ∧ Halts fs path cause ∧
    failure = .document cause

variable {base : Path} {patterns : List String}

theorem loadDocuments_of_ok {loaded : Loaded} {events : List Event}
    (expanded : (expandPatterns fs base patterns).value = .ok files)
    (done : loadFiles fs files = ⟨events, .ok loaded⟩) :
    loadDocuments fs base patterns = ⟨(expandPatterns fs base patterns).events ++ events ++
      [.documentsLoaded loaded.documents.length loaded.errors.length], .ok loaded⟩ := by
  simp only [loadDocuments, expanded, done]

theorem loadDocuments_of_error {events : List Event}
    (expanded : (expandPatterns fs base patterns).value = .ok files)
    (done : loadFiles fs files = ⟨events, .error failure⟩) :
    loadDocuments fs base patterns =
      ⟨(expandPatterns fs base patterns).events ++ events, .error (.document failure)⟩ := by
  simp only [loadDocuments, expanded, done]

theorem Sorts.loadDocuments (expanded : (expandPatterns fs base patterns).value = .ok files)
    (sorts : Sorts (Parses fs) (Fails fs) files documents errors) :
    loadDocuments fs base patterns = ⟨(expandPatterns fs base patterns).events ++
      errors.map (·.event) ++ [.documentsLoaded documents.length errors.length],
      .ok ⟨documents, errors⟩⟩ :=
  loadDocuments_of_ok expanded (loadFiles_of_sorts sorts)

theorem Sorts.isolates (sorts : Sorts (Parses fs) (Fails fs) files documents errors) :
    Isolates fs files (.ok ⟨documents, errors⟩) :=
  ⟨_, rfl, sorts.mono (fun _ _ _ parses => parses)
    fun _ _ _ fails => ⟨fails.path_eq, fun _ => fails.not_parses⟩⟩

theorem Sorts.removed (sorts : Sorts (Parses fs) (Fails fs) files documents errors)
    {keep : Path → Bool} (kept : ∀ path ∈ files, ∀ d, Parses fs path d → keep path)
    {other : FileSystem} (expanded : (expandPatterns other base patterns).value =
      .ok (files.filter keep))
    (same : ∀ path ∈ files.filter keep, other.find path = fs.find path) :
    ∃ again, (QueryAudit.loadDocuments other base patterns).value = .ok again ∧
      again.documents = documents ∧ again.errors.Sublist errors := by
  obtain ⟨fewer, sublist, left⟩ := sorts.filter keep kept
  have moved : Sorts (Parses other) (Fails other) (files.filter keep) documents fewer :=
    left.mono (fun path member _ => Parses.congr (same path member))
      fun path member _ => Fails.congr (same path member)
  exact ⟨⟨documents, fewer⟩, by rw [moved.loadDocuments expanded], rfl, sublist⟩

theorem Sorts.accounts (expanded : (expandPatterns fs base patterns).value = .ok files)
    (sorts : Sorts (Parses fs) (Fails fs) files documents errors) :
    Accounts fs files (expandPatterns fs base patterns).events
      (QueryAudit.loadDocuments fs base patterns) := by
  rw [sorts.loadDocuments expanded]
  refine ⟨iff_of_true sorts.isolates sorts.not_halts, ?_, ?_, ?_, ?_⟩
  · intro loaded same
    cases same
    exact sorts
  · intro loaded same
    cases same
    rfl
  · intro loaded same keep kept other base' patterns' expandedToo find
    cases same
    exact sorts.removed kept expandedToo find
  · intro failure stopped
    cases stopped

theorem Halts.accounts {front back : List Path}
    (expanded : (expandPatterns fs base patterns).value = .ok (front ++ path :: back))
    (sorts : Sorts (Parses fs) (Fails fs) front documents errors) (halts : Halts fs path failure) :
    Accounts fs (front ++ path :: back) (expandPatterns fs base patterns).events
      (loadDocuments fs base patterns) := by
  have halting : ¬ ∀ p ∈ front ++ path :: back, ∀ f, ¬ Halts fs p f := by
    intro none
    exact none path (by simp) failure halts
  rw [loadDocuments_of_error expanded (loadFiles_of_halts sorts halts)]
  refine ⟨iff_of_false ?_ halting, ?_, ?_, ?_, ?_⟩
  · rintro ⟨loaded, same, _⟩
    cases same
  · intro loaded same
    cases same
  · intro loaded same
    cases same
  · intro loaded same
    cases same
  · intro cause same
    cases same
    exact ⟨front, path, back, failure, rfl, sorts.not_halts, halts, rfl⟩

/-- Loading the files that patterns stand for keeps bad files apart from the others up to the first
one that halts. -/
theorem loadDocuments_accounts (expanded : (expandPatterns fs base patterns).value = .ok files) :
    Accounts fs files (expandPatterns fs base patterns).events
      (loadDocuments fs base patterns) := by
  rcases sorts_or_halts fs files with ⟨documents, errors, sorts⟩ |
    ⟨front, path, back, failure, documents, errors, rfl, sorts, halts⟩
  · exact sorts.accounts expanded
  · exact halts.accounts expanded sorts

/-- A good file, one that may not be read, a directory with the ending of a document, a text that
breaks off, and another good file. -/
def mixed : FileSystem :=
  ⟨.directory [("a", .file "\x7ba\x7d".toUTF8), ("b", .locked),
      ("c", .directory [("c.gql", .directory [])]), ("d", .file "\x7b".toUTF8),
      ("e", .file "\x7be\x7d".toUTF8)], ⟨"/", []⟩⟩

theorem mixed_accounts :
    let files : List Path :=
      [⟨"", ["a"]⟩, ⟨"", ["b"]⟩, ⟨"", ["c", "c.gql"]⟩, ⟨"", ["d"]⟩, ⟨"", ["e"]⟩]
    (expandPatterns mixed {} ["a", "b", "c", "d", "e"]).value = .ok files ∧
      Isolates mixed files (loadDocuments mixed {} ["a", "b", "c", "d", "e"]).value := by
  intro files
  have expanded : (expandPatterns mixed {} ["a", "b", "c", "d", "e"]).value = .ok files :=
    ok_of_toOption (by decide +kernel)
  have done : (loadDocuments mixed {} ["a", "b", "c", "d", "e"]).value.isOk := by decide +kernel
  obtain ⟨loaded, done⟩ := ok_of_isOk done
  have accounts := loadDocuments_accounts expanded
  exact ⟨expanded, accounts.isolates.mpr (accounts.reasons loaded done).not_halts⟩

/-- A file behind one with given bytes. -/
def followed (content : ByteArray) : FileSystem :=
  ⟨.directory [("a", .file content), ("b", .file "\x7bb\x7d".toUTF8)], ⟨"/", []⟩⟩

theorem Isolates.isOk {outcome : Except LoadFailure Loaded}
    (isolates : Isolates fs files outcome) : outcome.isOk := by
  obtain ⟨loaded, rfl, _⟩ := isolates
  rfl

/-- A byte that no text has, or a text that breaks off in an escape sequence, keeps the file behind
it from being loaded. -/
theorem followed_lost :
    ¬ Isolates (followed ⟨#[0xff]⟩) [⟨"", ["a"]⟩, ⟨"", ["b"]⟩]
      (loadDocuments (followed ⟨#[0xff]⟩) {} ["a", "b"]).value ∧
    ¬ Isolates (followed "\x7ba(b:\"\\".toUTF8) [⟨"", ["a"]⟩, ⟨"", ["b"]⟩]
      (loadDocuments (followed "\x7ba(b:\"\\".toUTF8) {} ["a", "b"]).value := by
  have noText : ¬ (loadDocuments (followed ⟨#[0xff]⟩) {} ["a", "b"]).value.isOk := by
    decide +kernel
  have cutEscape :
      ¬ (loadDocuments (followed "\x7ba(b:\"\\".toUTF8) {} ["a", "b"]).value.isOk := by
    decide +kernel
  exact ⟨fun isolates => noText isolates.isOk, fun isolates => cutEscape isolates.isOk⟩

end QueryAudit
