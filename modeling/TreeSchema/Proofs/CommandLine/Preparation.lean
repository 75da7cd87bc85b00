/-
What a command needs before it looks at documents.

A command that asks about documents first imports its catalogs one after the other, then makes its
query, and then finds out which paths its inputs stand for.  Here the files are given, so each of
these steps either has a result or not: catalogs load (`CommandLine.Loads`), an input stands for
paths (`CommandLine.StandsFor`).  All of it has to succeed, and then the command is prepared
(`CommandLine.prepared_eq_ok_iff`).
-/
import TreeSchema.CommandLine.Run
import TreeSchema.Proofs.Results

namespace TreeSchema

namespace CommandLine

/-- The catalogs in some files load, each into the registry that the ones before it have given. -/
inductive Loads (files : Files Id) : Registry → List String → Registry → Prop where
  | done (r : Registry) : Loads files r [] r
  | next {r imported last : Registry} {path text : String} {paths : List String} {count : Nat}
      (hread : (files.read path).run = .ok text)
      (himport : r.importText text = .ok (imported, count))
      (hrest : Loads files imported paths last) : Loads files r (path :: paths) last

/-- An input stands for paths: one that is no pattern for itself, if something is there, and a
pattern for the paths that it expands to, if there are any and all directories can be listed. -/
inductive StandsFor (files : Files Id) (input : String) : List String → Prop where
  | path (hpath : Glob.isPattern input = false) (hthere : (files.kind? input).run.isSome) :
      StandsFor files input [input]
  | pattern {pattern : Glob} {paths : List String} (hpattern : Glob.isPattern input = true)
      (hread : Glob.ofText input = .ok pattern)
      (hexpand : (Glob.expand files pattern).run = paths.map .ok) (hsome : paths ≠ []) :
      StandsFor files input paths

/-- The file at a path. -/
def sourceAt (files : Files Id) (path : String) : Source := (path, (files.read path).run)

/-- What a command starts from. -/
def CatalogOptions.start (options : CatalogOptions) : Registry :=
  if options.builtin then Registry.ecmaScript else Registry.empty

variable {files : Files Id} {r last : Registry} {q : Query} {paths : List String}
  {sources : List Source} {input : String}

/-! ### Catalogs -/

lemma importSources_eq_ok_iff :
    importSources r (paths.map (sourceAt files)) = .ok last ↔ Loads files r paths last := by
  induction paths generalizing r with
  | nil =>
    constructor
    · intro h
      obtain rfl := Except.ok.inj h
      exact .done r
    · rintro ⟨⟩
      rfl
  | cons path paths ih =>
    rw [List.map_cons, sourceAt]
    cases hread : (files.read path).run with
    | error why =>
      refine iff_of_false (by simp [importSources]) ?_
      rintro (_ | ⟨hread', -, -⟩)
      cases hread.symm.trans hread'
    | ok text =>
      cases himport : r.importText text with
      | error why =>
        refine iff_of_false (by simp [importSources, himport]) ?_
        rintro (_ | ⟨hread', himport', -⟩)
        cases hread.symm.trans hread'
        cases himport.symm.trans himport'
      | ok result =>
        obtain ⟨imported, count⟩ := result
        have hstep : importSources r ((path, .ok text) :: paths.map (sourceAt files)) =
            importSources imported (paths.map (sourceAt files)) := by
          simp [importSources, himport]
        rw [hstep, ih]
        constructor
        · exact .next hread himport
        · rintro (_ | ⟨hread', himport', hrest⟩)
          cases hread.symm.trans hread'
          cases himport.symm.trans himport'
          exact hrest

lemma Loads.unique {last' : Registry} (h : Loads files r paths last)
    (h' : Loads files r paths last') : last = last' :=
  Except.ok.inj ((importSources_eq_ok_iff.mpr h).symm.trans (importSources_eq_ok_iff.mpr h'))

/-! ### Inputs -/

/-- Paths are found if all directories on the way can be listed. -/
lemma mapM_found_eq_ok_iff {found : List Glob.Found} :
    found.mapM id = .ok paths ↔ found = paths.map .ok := by
  rw [mapM_eq_ok_iff]
  constructor
  · intro h
    induction h with
    | nil => rfl
    | cons hxy _ ih => rw [List.map_cons, ← ih, ← hxy, id]
  · rintro rfl
    exact List.forall₂_map_left_iff.mpr (List.forall₂_same.mpr fun _ _ => rfl)

lemma pathsOf_pattern_iff {pattern : Glob} (hpattern : Glob.isPattern input = true)
    (hread : Glob.ofText input = .ok pattern) : (pathsOf files input).run = .ok paths ↔
      (Glob.expand files pattern).run = paths.map .ok ∧ paths ≠ [] := by
  rw [← mapM_found_eq_ok_iff]
  simp only [pathsOf, hpattern, hread, if_true, Id.run_bind]
  cases hfound : (Glob.expand files pattern).run.mapM id with
  | error what => simp
  | ok found =>
    cases found with
    | nil => simp
    | cons path others =>
      have hsome : path :: others = paths → paths ≠ [] := by
        rintro rfl
        exact List.cons_ne_nil _ _
      simpa using hsome

/-- **An input has the paths that it stands for.** -/
theorem pathsOf_eq_ok_iff :
    (pathsOf files input).run = .ok paths ↔ StandsFor files input paths := by
  constructor
  · intro h
    cases hpattern : Glob.isPattern input with
    | false =>
      cases hthere : (files.kind? input).run with
      | none => simp [pathsOf, hpattern, hthere] at h
      | some kind =>
        obtain rfl : [input] = paths := by simpa [pathsOf, hpattern, hthere] using h
        exact .path hpattern (by simp [hthere])
    | true =>
      cases hread : Glob.ofText input with
      | error why => simp [pathsOf, hpattern, hread] at h
      | ok pattern =>
        obtain ⟨hexpand, hsome⟩ := (pathsOf_pattern_iff hpattern hread).mp h
        exact .pattern hpattern hread hexpand hsome
  · rintro (⟨hpath, hthere⟩ | ⟨hpattern, hread, hexpand, hsome⟩)
    · obtain ⟨kind, hkind⟩ := Option.isSome_iff_exists.mp hthere
      simp [pathsOf, hpath, hkind]
    · exact (pathsOf_pattern_iff hpattern hread).mpr ⟨hexpand, hsome⟩

/-- The documents of inputs are in the files at their paths, in order. -/
lemma readInputs_eq_ok_iff {inputs : List String} :
    (readInputs files inputs).run = .ok sources ↔
      ∃ groups, List.Forall₂ (StandsFor files) inputs groups ∧
        sources = groups.flatten.map (sourceAt files) := by
  have hgroups : ∀ groups, (inputs.mapM (pathsOf files)).run.mapM id = .ok groups ↔
      List.Forall₂ (StandsFor files) inputs groups := by
    intro groups
    rw [List.idRun_mapM, mapM_eq_ok_iff, List.forall₂_map_left_iff]
    exact ⟨fun h => h.imp fun _ _ => pathsOf_eq_ok_iff.mp,
      fun h => h.imp fun _ _ => pathsOf_eq_ok_iff.mpr⟩
  have hsources : ∀ paths : List String, (paths.mapM (readSource files)).run =
      paths.map (sourceAt files) := by
    intro paths
    rw [List.idRun_mapM]
    rfl
  simp only [readInputs, Id.run_bind, ← hgroups]
  cases hfound : (inputs.mapM (pathsOf files)).run.mapM id with
  | error why => simp
  | ok groups => simp [hsources, eq_comm]

/-! ### All of it -/

/-- What a command that asks for a schema takes from files. -/
lemma prepared_eq_ok_iff {catalogs : CatalogOptions} {inputs : List String} {schema : String} :
    prepared catalogs schema
          ⟨catalogs.catalogs.map (sourceAt files), (readInputs files inputs).run⟩ =
        .ok (r, q, sources) ↔
      Loads files catalogs.start catalogs.catalogs r ∧ queryOf schema = .ok q ∧
        (∃ s, r.prepare q = .ok s) ∧ ∃ groups, List.Forall₂ (StandsFor files) inputs groups ∧
          sources = groups.flatten.map (sourceAt files) := by
  rw [← importSources_eq_ok_iff, ← readInputs_eq_ok_iff]
  simp only [prepared, CatalogOptions.registry, CatalogOptions.start, bind_eq_ok_iff,
    mapError_eq_ok_iff, pure_eq_ok_iff, Prod.mk.injEq]
  constructor
  · rintro ⟨_, hload, _, hquery, s, hprepare, _, hinputs, rfl, rfl, rfl⟩
    exact ⟨hload, hquery, ⟨s, hprepare⟩, hinputs⟩
  · rintro ⟨hload, hquery, ⟨s, hprepare⟩, hinputs⟩
    exact ⟨r, hload, q, hquery, s, hprepare, sources, hinputs, rfl, rfl, rfl⟩

end CommandLine

end TreeSchema
