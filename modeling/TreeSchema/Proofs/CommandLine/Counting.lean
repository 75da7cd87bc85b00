/-
What `count` reports.

Questions are put to the documents one after the other, up to the first one that has no value.
The answers to the documents before that one are kept (`CommandLine.ask_of_first`), and if there is
no such document there is an answer to each (`CommandLine.ask_of_all`).

From this one sees that `count` accounts for all documents (`CommandLine.count_accounts`).  If it
ends well, the output has one row for each document and then the total of the rows.  If
it does not, there is a first document at fault, the output has the rows of the documents before
it, and there is no total.  Nothing is put out before the command is prepared.
-/
import Mathlib.Algebra.Order.Ring.Nat
import TreeSchema.Proofs.CommandLine.Documents
import TreeSchema.Proofs.CommandLine.Preparation
import TreeSchema.Proofs.Files.Tree
import TreeSchema.Proofs.Matching.Equations
import TreeSchema.Proofs.Registry.Texts
import TreeSchema.Proofs.Traversal

namespace TreeSchema

namespace CommandLine

/-- The row of a document: its label, and how many nodes of its value match. -/
def Counts (r : Registry) (depth : Nat) (q : Query) (pointer : Option String) (document : Source)
    (row : String × Nat) : Prop :=
  row.1 = document.1 ∧ ∃ v, Selects pointer document v ∧ r.count depth v q = .ok row.2

/-- A document has one row. -/
lemma counts_rightUnique (r : Registry) (depth : Nat) (q : Query) (pointer : Option String) :
    Relator.RightUnique (Counts r depth q pointer) := by
  rintro document ⟨label, n⟩ ⟨label', n'⟩ ⟨hlabel, v, hselects, hcount⟩
    ⟨hlabel', v', hselects', hcount'⟩
  obtain rfl := hselects.unique hselects'
  obtain rfl := Except.ok.inj (hcount.symm.trans hcount')
  rw [show label = label' from hlabel.trans hlabel'.symm]

/-- A row as it is put out without colours. -/
def rowText (row : String × Nat) : String := row.1 ++ "\t" ++ toString row.2 ++ "\n"

/-! ### Questions -/

variable {α : Type} {options : InputOptions} {sources documents before after : List Source}
  {document : Source} {pointer : Option String} {question : Json → Except QueryError α}
  {row : String × α} {rows : List (String × α)}

/-- The answer for a document. -/
def answerOf (pointer : Option String) (question : Json → Except QueryError α)
    (document : Source) : Except Failure (String × α) := do
  let (label, v) ← valueOf pointer document
  let answer ← (question v).mapError .query
  return (label, answer)

lemma answerOf_eq_ok_iff : answerOf pointer question document = .ok row ↔
    row.1 = document.1 ∧ ∃ v, Selects pointer document v ∧ question v = .ok row.2 := by
  obtain ⟨label, answer⟩ := row
  simp only [answerOf, bind_eq_ok_iff, Prod.exists, valueOf_eq_ok_iff, mapError_eq_ok_iff,
    pure_eq_ok_iff, Prod.mk.injEq]
  constructor
  · rintro ⟨_, v, ⟨hlabel, hselects⟩, _, hanswer, rfl, rfl⟩
    exact ⟨hlabel, v, hselects, hanswer⟩
  · rintro ⟨hlabel, v, hselects, hanswer⟩
    exact ⟨label, v, ⟨hlabel, hselects⟩, answer, hanswer, rfl, rfl⟩

lemma untilFailure_append (results : List α) (rest : List (Except Failure α)) :
    untilFailure (results.map .ok ++ rest) =
      (results ++ (untilFailure rest).1, (untilFailure rest).2) := by
  induction results with
  | nil => rfl
  | cons result results ih => simp [untilFailure, ih]

lemma map_answerOf (h : List.Forall₂ (fun document row => answerOf pointer question document =
    .ok row) documents rows) : documents.map (answerOf pointer question) = rows.map .ok := by
  induction h with
  | nil => rfl
  | cons hrow _ ih => rw [List.map_cons, List.map_cons, hrow, ih]

lemma ask_eq (options : InputOptions) (sources : List Source)
    (question : Json → Except QueryError α) : ask options sources question =
      untilFailure ((sources.flatMap (documentsOf options.byLine)).map
        (answerOf options.pointer question)) := by
  have hdocuments : sources.flatMap options.documentsIn =
      (sources.flatMap (documentsOf options.byLine)).map (valueOf options.pointer) := by
    rw [List.map_flatMap]
    exact List.flatMap_congr fun source _ => documentsIn_eq options source
  rw [ask, hdocuments, List.map_map]
  rfl

/-- If there are answers for all documents, these are the answers. -/
lemma ask_of_all (hrows : List.Forall₂ (fun document row =>
      answerOf options.pointer question document = .ok row)
      (sources.flatMap (documentsOf options.byLine)) rows) :
    ask options sources question = (rows, none) := by
  have hstop := untilFailure_append rows []
  rw [List.append_nil] at hstop
  rw [ask_eq, map_answerOf hrows, hstop]
  simp [untilFailure]

/-- The first document without an answer ends the questions, and the answers before are kept. -/
lemma ask_of_first (hsplit : sources.flatMap (documentsOf options.byLine) =
      before ++ document :: after)
    (hrows : List.Forall₂ (fun document row =>
      answerOf options.pointer question document = .ok row) before rows)
    (hnone : ∀ row, answerOf options.pointer question document ≠ .ok row) :
    ∃ failure, ask options sources question = (rows, some failure) := by
  cases hfails : answerOf options.pointer question document with
  | ok row => exact absurd hfails (hnone row)
  | error failure =>
    refine ⟨failure, ?_⟩
    rw [ask_eq, hsplit, List.map_append, List.map_cons, map_answerOf hrows, hfails,
      untilFailure_append]
    simp [untilFailure]

/-! ### Reports -/

variable {r : Registry} {q : Query} {s : Schema} {catalogs : CatalogOptions} {schema : String}
  {material : Material} {failure : Failure}

/-- A prepared query has an answer for each value. -/
lemma exists_count (hprepare : r.prepare q = .ok s) (depth : Nat) (v : Json) :
    ∃ n, r.count depth v q = .ok n := by
  rw [Registry.count, hprepare]
  exact ⟨_, rfl⟩

/-- Documents that have a value have a row. -/
lemma exists_rows (hprepare : r.prepare q = .ok s) (depth : Nat)
    (h : ∀ document ∈ documents, ∃ v, Selects pointer document v) :
    ∃ rows, List.Forall₂ (Counts r depth q pointer) documents rows := by
  refine exists_forall₂_iff.mpr fun document hmem => ?_
  obtain ⟨v, hselects⟩ := h document hmem
  obtain ⟨n, hcount⟩ := exists_count hprepare depth v
  exact ⟨(document.1, n), rfl, v, hselects, hcount⟩

lemma textOf_rows (rows : List (String × Nat)) :
    Report.textOf (rows.map fun (label, n) => label ++ "\t" ++ styled false [.bold] (toString n)) =
      String.join (rows.map rowText) := by
  rw [Report.textOf, List.map_map]
  rfl

lemma countReport_of_error (h : prepared catalogs schema material = .error failure) :
    (countReport false catalogs options schema material).output = "" ∧
      (countReport false catalogs options schema material).code = 1 := by
  rw [countReport, h]
  exact ⟨rfl, rfl⟩

lemma countReport_of_all {rows : List (String × Nat)}
    (h : prepared catalogs schema material = .ok (r, q, sources))
    (hask : ask options sources (fun v => r.count catalogs.depth v q) = (rows, none)) :
    (countReport false catalogs options schema material).output =
        String.join (rows.map rowText) ++ rowText ("total", (rows.map Prod.snd).sum) ∧
      (countReport false catalogs options schema material).code = 0 := by
  have htotal : rows.foldl (fun n row => n + row.2) 0 = (rows.map Prod.snd).sum := by
    rw [List.sum_eq_foldl, List.foldl_map]
  rw [countReport, h]
  dsimp only
  rw [hask]
  dsimp only [Report.output, Report.code]
  refine ⟨?_, rfl⟩
  rw [← textOf_rows, Report.textOf, List.map_append, String.join_append, htotal]
  simp [Report.textOf, rowText, styled, String.join]

lemma countReport_of_first {rows : List (String × Nat)}
    (h : prepared catalogs schema material = .ok (r, q, sources))
    (hask : ask options sources (fun v => r.count catalogs.depth v q) = (rows, some failure)) :
    (countReport false catalogs options schema material).output = String.join (rows.map rowText) ∧
      (countReport false catalogs options schema material).code = 1 := by
  rw [countReport, h]
  dsimp only
  rw [hask]
  exact ⟨textOf_rows rows, rfl⟩

/-- The material of a command from files that are given. -/
lemma run_perform (colour : Bool) (files : Files Id) (catalogs : CatalogOptions)
    (inputs : InputOptions) (schema : String) :
    ((Command.count catalogs inputs schema).perform colour files).run =
      countReport colour catalogs inputs schema
        ⟨catalogs.catalogs.map (sourceAt files), (readInputs files inputs.inputs).run⟩ := by
  have hcatalogs : (catalogs.catalogs.mapM (readSource files)).run =
      catalogs.catalogs.map (sourceAt files) := by
    rw [List.idRun_mapM]
    rfl
  rw [← hcatalogs]
  rfl

/-- **`count` accounts for all documents.**

* If a catalog does not load, or the schema gives no query, or the query cannot be prepared, or an
  input stands for no paths, then there is no output and the exit code is 1.
* Otherwise the documents are the files at the paths of the inputs, or the lines in them that are
  not blank, in order.  If all have a value, the output has a row for each, in the same order, and
  then the total, and the exit code is 0.  If one has none, the output has the rows of the documents
  before the first of these, and the exit code is 1. -/
theorem count_accounts (files : Files Id) (catalogs : CatalogOptions) (inputs : InputOptions)
    (schema : String) :
    let report := ((Command.count catalogs inputs schema).perform false files).run
    ((¬ ∃ r, Loads files catalogs.start catalogs.catalogs r) ∨
        (¬ ∃ q, queryOf schema = .ok q) ∨
        (∃ r q, Loads files catalogs.start catalogs.catalogs r ∧ queryOf schema = .ok q ∧
          ¬ ∃ s, r.prepare q = .ok s) ∨
        (∃ input ∈ inputs.inputs, ¬ ∃ paths, StandsFor files input paths) →
      report.output = "" ∧ report.code = 1) ∧
    ∀ r q s groups, Loads files catalogs.start catalogs.catalogs r → queryOf schema = .ok q →
      r.prepare q = .ok s → List.Forall₂ (StandsFor files) inputs.inputs groups →
      ∃ documents, Enumerates
          (StandsAmong inputs.byLine (groups.flatten.map (sourceAt files))) documents ∧
        ((∀ document ∈ documents, ∃ v, Selects inputs.pointer document v) →
          ∃ rows, List.Forall₂ (Counts r catalogs.depth q inputs.pointer) documents rows ∧
            report.output =
              String.join (rows.map rowText) ++ rowText ("total", (rows.map Prod.snd).sum) ∧
            report.code = 0) ∧
        ∀ before document after, documents = before ++ document :: after →
          (∀ document ∈ before, ∃ v, Selects inputs.pointer document v) →
          (¬ ∃ v, Selects inputs.pointer document v) →
          ∃ rows, List.Forall₂ (Counts r catalogs.depth q inputs.pointer) before rows ∧
            report.output = String.join (rows.map rowText) ∧ report.code = 1 := by
  intro report
  have hreport : report = countReport false catalogs inputs schema
      ⟨catalogs.catalogs.map (sourceAt files), (readInputs files inputs.inputs).run⟩ :=
    run_perform false files catalogs inputs schema
  rw [hreport]
  constructor
  · intro hfails
    cases hprepared : prepared catalogs schema
        ⟨catalogs.catalogs.map (sourceAt files), (readInputs files inputs.inputs).run⟩ with
    | error failure => exact countReport_of_error hprepared
    | ok result =>
      obtain ⟨r, q, sources⟩ := result
      -- a command that is prepared has a result at each of the steps
      obtain ⟨hload, hquery, hprepare, groups, hgroups, -⟩ := prepared_eq_ok_iff.mp hprepared
      rcases hfails with hnone | hnone | ⟨r', q', hload', hquery', hnone⟩ | ⟨input, hmem, hnone⟩
      · exact absurd ⟨r, hload⟩ hnone
      · exact absurd ⟨q, hquery⟩ hnone
      · obtain rfl := hload.unique hload'
        obtain rfl := Except.ok.inj (hquery.symm.trans hquery')
        exact absurd hprepare hnone
      · obtain ⟨paths, -, hpaths⟩ := exists_right_of_forall₂ hgroups hmem
        exact absurd ⟨paths, hpaths⟩ hnone
  · intro r q s groups hload hquery hprepare hgroups
    have hprepared := prepared_eq_ok_iff.mpr
      ⟨hload, hquery, ⟨s, hprepare⟩, groups, hgroups, rfl⟩
    have hanswers : ∀ {documents rows}, List.Forall₂ (Counts r catalogs.depth q inputs.pointer)
        documents rows → List.Forall₂ (fun document row => answerOf inputs.pointer
          (fun v => r.count catalogs.depth v q) document = .ok row) documents rows :=
      fun hrows => hrows.imp fun _ _ => answerOf_eq_ok_iff.mpr
    refine ⟨_, enumerates_documents inputs.byLine _, fun hall => ?_, ?_⟩
    · obtain ⟨rows, hrows⟩ := exists_rows hprepare catalogs.depth hall
      exact ⟨rows, hrows, countReport_of_all hprepared (ask_of_all (hanswers hrows))⟩
    · intro before document after hsplit hbefore hnone
      obtain ⟨rows, hrows⟩ := exists_rows hprepare catalogs.depth hbefore
      have hdocument : ∀ row, answerOf inputs.pointer (fun v => r.count catalogs.depth v q)
          document ≠ .ok row := by
        intro row hrow
        obtain ⟨-, v, hselects, -⟩ := answerOf_eq_ok_iff.mp hrow
        exact hnone ⟨v, hselects⟩
      obtain ⟨failure, hask⟩ := ask_of_first hsplit (hanswers hrows) hdocument
      exact ⟨rows, hrows, countReport_of_first hprepared hask⟩

/-- A log with a blank line. -/
def logText : String := "\x7b\"type\":\"Fir\"\x7d\n\n\x7b\x7d"

/-- Some texts: a catalog, a log, and one that is cut off. -/
def shelved : List (String × String) :=
  [("firs.json", Registry.plantation), ("log.ndjson", logText), ("cut.ndjson", "\x7b")]

/-- The directory of the texts. -/
def shelfTree : FileTree := FileTree.ofFiles (shelved.map fun file => (file.1, file.2.toUTF8))

/-- The texts as files. -/
def shelf : Files Id := shelfTree.files

/-- The registry that the catalog on the shelf gives. -/
def firs : Registry := ⟨[("Fir", ⟨some "Fir", .any⟩)]⟩

/-- What `count` reports of firs in files of the shelf, line by line. -/
def firReport (inputs : List String) : Report :=
  ((Command.count ⟨["firs.json"], false, 3⟩ ⟨true, none, inputs⟩ "Fir").perform false shelf).run

/-- The documents in the log. -/
def logDocuments : List Source :=
  [("log.ndjson:1", .ok "\x7b\"type\":\"Fir\"\x7d"), ("log.ndjson:3", .ok "\x7b\x7d")]

lemma read_shelf {path text : String} (h : (path, text) ∈ shelved) :
    shelf.kind? path = some .file ∧ shelf.read path = Except.ok text :=
  FileTree.read_ofFiles (by decide) (by decide) h

lemma sourceAt_shelf {path text : String} (h : (path, text) ∈ shelved) :
    sourceAt shelf path = (path, .ok text) := by
  rw [sourceAt, (read_shelf h).2]
  rfl

lemma standsFor_shelf {path text : String} (h : (path, text) ∈ shelved)
    (hpath : Glob.isPattern path = false) : StandsFor shelf path [path] := by
  refine .path hpath ?_
  rw [(read_shelf h).1]
  rfl

lemma gone_of_shelf : ¬ ∃ paths, StandsFor shelf "gone.ndjson" paths := by
  have hgone : shelfTree.find "gone.ndjson" = .error .notFound :=
    (FileTree.find_of_plain (by decide)).trans rfl
  rintro ⟨_, ⟨-, hthere⟩ | ⟨⟨⟩, -, -, -⟩⟩
  rw [shelf, FileTree.kind?_files, hgone] at hthere
  cases hthere

lemma loads_firs : Loads shelf Registry.empty ["firs.json"] firs := by
  obtain ⟨rest, hbegins, -⟩ := Registry.plantation_isDocument
  have himport : Registry.empty.importText Registry.plantation = .ok (firs, 1) := by
    rw [Registry.importText_of_beginsWith hbegins]
    rfl
  exact .next (read_shelf (by simp [shelved])).2 himport (.done firs)

open Json.Syntax in
lemma fir_isDocument :
    Json.IsDocument "\x7b\"type\":\"Fir\"\x7d" (.object [("type", .string "Fir")]) := by
  have hkey : Chars ['t', 'y', 'p', 'e', '"', ':', '"', 'F', 'i', 'r', '"', '\x7d']
      ['t', 'y', 'p', 'e'] [':', '"', 'F', 'i', 'r', '"', '\x7d'] :=
    chars_of_plain ['t', 'y', 'p', 'e'] (by simp [Json.isControl])
  have hfir : Leaf ['"', 'F', 'i', 'r', '"', '\x7d'] (.string "Fir") ['\x7d'] :=
    .string (chars_of_plain ['F', 'i', 'r'] (by simp [Json.isControl]))
  have hvalue : Value Json.maxLevels ['\x7b', '"', 't', 'y', 'p', 'e', '"', ':', '"', 'F', 'i', 'r',
      '"', '\x7d'] (.object [("type", .string "Fir")]) [] :=
    value_succ_iff.mpr <| .inr <| .object <|
      .next (.first (.none _)) hkey (.none _) (.none _) (.inl hfir) (.close (.none _))
  exact ⟨[], ⟨_, .none _, hvalue⟩, .none _⟩

lemma braces_isDocument : Json.IsDocument "\x7b\x7d" (.object []) :=
  ⟨[], ⟨_, .none _, Registry.value_braces⟩, .none _⟩

lemma selects_of_mem_logDocuments :
    ∀ document ∈ logDocuments, ∃ v, Selects none document v := by
  intro document hmem
  rcases List.mem_pair.mp hmem with rfl | rfl
  · exact ⟨_, .whole rfl fir_isDocument⟩
  · exact ⟨_, .whole rfl braces_isDocument⟩

lemma prepare_firs : firs.prepare (.json (.string "Fir")) = .ok .any := by cbv

/-- All nodes are firs. -/
lemma count_firs (depth : Nat) (v : Json) :
    firs.count depth v (.json (.string "Fir")) = .ok v.nodes.length := by
  rw [Registry.count, prepare_firs]
  simp [Except.map, Registry.accepts]

/-- The rows of the log, whatever they are found by. -/
lemma rows_logDocuments {rows : List (String × Nat)}
    (h : List.Forall₂ (Counts firs 3 (.json (.string "Fir")) none) logDocuments rows) :
    rows = [("log.ndjson:1", 1), ("log.ndjson:3", 0)] := by
  have hone : firs.count 3 (.object [("type", .string "Fir")]) (.json (.string "Fir")) = .ok 1 := by
    rw [count_firs, Json.nodes_eq_flatMap]
    change Except.ok ((Json.Located.preorder _ ++ []).length) = _
    rw [Json.Located.preorder, Json.preorder_eq]
    rfl
  have hzero : firs.count 3 (.object []) (.json (.string "Fir")) = .ok 0 := by
    rw [count_firs, Json.nodes_eq_flatMap]
    rfl
  have hfir : Counts firs 3 (.json (.string "Fir")) none
      ("log.ndjson:1", .ok "\x7b\"type\":\"Fir\"\x7d") ("log.ndjson:1", 1) :=
    ⟨rfl, _, .whole rfl fir_isDocument, hone⟩
  have hbraces : Counts firs 3 (.json (.string "Fir")) none
      ("log.ndjson:3", .ok "\x7b\x7d") ("log.ndjson:3", 0) :=
    ⟨rfl, _, .whole rfl braces_isDocument, hzero⟩
  exact (counts_rightUnique ..).forall₂ h (.cons hfir (.cons hbraces .nil))

/-- The rows of the log come with a total, or without one if a line is cut off in a later file.  If
a file is missing there are none. -/
theorem firs_counted :
    ((firReport ["log.ndjson"]).output = "log.ndjson:1\t1\nlog.ndjson:3\t0\ntotal\t1\n" ∧
      (firReport ["log.ndjson"]).code = 0) ∧
    ((firReport ["log.ndjson", "cut.ndjson"]).output = "log.ndjson:1\t1\nlog.ndjson:3\t0\n" ∧
      (firReport ["log.ndjson", "cut.ndjson"]).code = 1) ∧
    (firReport ["log.ndjson", "gone.ndjson"]).output = "" ∧
      (firReport ["log.ndjson", "gone.ndjson"]).code = 1 := by
  have hmem : ("log.ndjson", logText) ∈ shelved := by simp [shelved]
  have hmem' : ("cut.ndjson", "\x7b") ∈ shelved := by simp [shelved]
  have hlog : StandsFor shelf "log.ndjson" ["log.ndjson"] := standsFor_shelf hmem (by decide)
  have hcut : StandsFor shelf "cut.ndjson" ["cut.ndjson"] := standsFor_shelf hmem' (by decide)
  refine ⟨?_, ?_, ?_⟩
  · obtain ⟨documents, hdocuments, hall, -⟩ := (count_accounts shelf ⟨["firs.json"], false, 3⟩
      ⟨true, none, ["log.ndjson"]⟩ "Fir").2 firs _ _ [["log.ndjson"]] loads_firs rfl prepare_firs
      (.cons hlog .nil)
    rw [List.flatten_singleton, List.map_singleton, sourceAt_shelf hmem] at hdocuments
    obtain rfl : documents = logDocuments := hdocuments.unique (enumerates_documents true _)
    obtain ⟨rows, hrows, houtput, hcode⟩ := hall selects_of_mem_logDocuments
    rw [rows_logDocuments hrows] at houtput
    exact ⟨houtput, hcode⟩
  · obtain ⟨documents, hdocuments, -, hfirst⟩ := (count_accounts shelf ⟨["firs.json"], false, 3⟩
      ⟨true, none, ["log.ndjson", "cut.ndjson"]⟩ "Fir").2 firs _ _ [["log.ndjson"], ["cut.ndjson"]]
      loads_firs rfl prepare_firs (.cons hlog (.cons hcut .nil))
    have hsources : [["log.ndjson"], ["cut.ndjson"]].flatten.map (sourceAt shelf) =
        [("log.ndjson", .ok logText), ("cut.ndjson", .ok "\x7b")] := by
      simp [sourceAt_shelf hmem, sourceAt_shelf hmem']
    rw [hsources] at hdocuments
    have hsplit : documents = logDocuments ++ ("cut.ndjson:1", .ok "\x7b") :: [] :=
      hdocuments.unique (enumerates_documents true _)
    have hnone : ¬ ∃ v, Selects none ("cut.ndjson:1", .ok "\x7b") v := by
      rintro ⟨v, ⟨-, rest, hbegins, -⟩ | ⟨⟨⟩, -, -⟩⟩
      exact Registry.not_beginsWith_cut hbegins
    obtain ⟨rows, hrows, houtput, hcode⟩ :=
      hfirst _ _ _ hsplit selects_of_mem_logDocuments hnone
    rw [rows_logDocuments hrows] at houtput
    exact ⟨houtput, hcode⟩
  · exact (count_accounts shelf ⟨["firs.json"], false, 3⟩
      ⟨true, none, ["log.ndjson", "gone.ndjson"]⟩ "Fir").1
      (.inr (.inr (.inr ⟨"gone.ndjson", by simp, gone_of_shelf⟩)))

end CommandLine

end TreeSchema
