-- The imports of a project can be read off its report: the records of the files that were read,
-- one after the other, give the adjacency, with its keys in order and with the last imports of a
-- path that comes more than once.
import CodeAtlas.Command.Perform
import CodeAtlas.Proofs.Project.Reordering

namespace CodeAtlas

/-! ## Labels as keys -/

namespace Label

theorem key_firstOf (labels : List Label) (label : Label) :
    key (firstOf labels label) = key label := by
  unfold firstOf
  cases h : labels.find? fun other => key other = key label with
  | none => rfl
  | some other => simpa using List.find?_some h

/-- Labels that count as the same have the same first one. -/
theorem firstOf_congr {labels : List Label} {a b : Label} (ha : a ∈ labels) (h : key a = key b) :
    firstOf labels a = firstOf labels b := by
  unfold firstOf
  rw [h]
  cases hfind : labels.find? fun other => key other = key b with
  | none => exact absurd h (by simpa using List.find?_eq_none.1 hfind a ha)
  | some other => rfl

/-- The first of all labels that counts as the same is found among the first ones of those before,
or else it is the label itself. -/
theorem firstOf_of_mem_iff {before after keys : List Label} {label : Label}
    (hkeys : ∀ k, k ∈ keys ↔ k ∈ before.map (firstOf (before ++ label :: after))) :
    firstOf keys label = firstOf (before ++ label :: after) label := by
  cases hfind : keys.find? fun other => key other = key label with
  | some k =>
    have hsame : key k = key label := by simpa using List.find?_some hfind
    obtain ⟨b, hb, rfl⟩ := List.mem_map.1 ((hkeys k).1 (List.mem_of_find?_eq_some hfind))
    rw [key_firstOf] at hsame
    have hk : firstOf keys label = firstOf (before ++ label :: after) b := by
      simp [firstOf, hfind]
    rw [hk]
    exact firstOf_congr (List.mem_append_left _ hb) hsame
  | none =>
    have hbefore : before.find? (fun other => key other = key label) = none := by
      rw [List.find?_eq_none] at hfind ⊢
      intro b hb
      have hb' := hfind _ ((hkeys _).2 (List.mem_map_of_mem hb))
      rwa [key_firstOf] at hb'
    simp [firstOf, hfind, hbefore]

end Label

namespace Register

variable {α : Type}

/-- Enters a value under a label that has no parts. A label that counts as the same as a known one
is taken for it. -/
def enter (r : Register Label α) (e : Label × α) : Except LabelFault (Register Label α) :=
  if e.1.isSimple then .ok (r.put (Label.firstOf r.keys e.1) e.2) else .error (.notSimple e.1)

/-- What is entered one after the other is entered under the first of all labels that count as the
same. -/
theorem foldl_put_firstOf (before after : List (Label × α)) :
    let all := (before ++ after).map (·.1)
    after.foldl (fun r e => r.put (Label.firstOf r.keys e.1) e.2)
        (ofList (before.map fun e => (Label.firstOf all e.1, e.2))) =
      ofList ((before ++ after).map fun e => (Label.firstOf all e.1, e.2)) := by
  intro all
  induction after generalizing before with
  | nil => simp
  | cons e after ih =>
    have hfirst : Label.firstOf (ofList (before.map fun e => (Label.firstOf all e.1, e.2))).keys
        e.1 = Label.firstOf all e.1 := by
      have hall : all = before.map (·.1) ++ e.1 :: after.map (·.1) := by simp [all]
      rw [hall]
      apply Label.firstOf_of_mem_iff
      intro k
      rw [mem_keys_ofList]
      simp
    have hput : (ofList (before.map fun e => (Label.firstOf all e.1, e.2))).put
        (Label.firstOf all e.1) e.2 =
          ofList ((before ++ [e]).map fun e => (Label.firstOf all e.1, e.2)) := by
      simp [ofList, putAll]
    have hrest := ih (before ++ [e])
    simp only [List.append_assoc, List.cons_append, List.nil_append] at hrest
    rw [List.foldl_cons, hfirst, hput]
    exact hrest

theorem foldlM_enter (r : Register Label α) (entries : List (Label × α)) :
    entries.foldlM enter r =
      match entries.find? fun e => !e.1.isSimple with
      | some e => .error (.notSimple e.1)
      | none => .ok (entries.foldl (fun r e => r.put (Label.firstOf r.keys e.1) e.2) r) := by
  induction entries generalizing r with
  | nil => rfl
  | cons e entries ih =>
    rw [List.foldlM_cons, enter]
    cases hsimple : e.1.isSimple with
    | false => simp [hsimple, bind, Except.bind]
    | true => simp [hsimple, bind, Except.bind, ih]

end Register

/-! ## Reading a report -/

namespace Json

mutual

/-- The records in a report, in reading order. An object is a record, followed by the records in
its contents; a list holds the records of its items. -/
def records : Json → List Json
  | object members => object members :: contentRecords members
  | list items => recordsAll items
  | _ => []

/-- `records` of several reports, one after the other. -/
def recordsAll : List Json → List Json
  | [] => []
  | j :: js => records j ++ recordsAll js

/-- The records in the contents among some members. -/
def contentRecords : List (String × Json) → List Json
  | [] => []
  | (name, j) :: rest => (if name = "contents" then records j else []) ++ contentRecords rest

end

/-- The path and the imports in the record of a file that was read. -/
def fileImports? (record : Json) : Option (Label × List String) :=
  if record.get? "type" = some (.text "file") ∧ record.get? "parsed" = some (.bool true) then do
    let path ← record.get? "path"
    let imports ← record.get? "imports" >>= list?
    return (path, ← imports.mapM text?)
  else none

/-- The imports of the files that a report tells of, entered in the order of their records. -/
def reportedImports (report : Json) : Except LabelFault (Register Label (List String)) :=
  (report.records.filterMap fileImports?).foldlM Register.enter .empty

theorem mapM_text? (texts : List String) : (texts.map text).mapM text? = some texts := by
  induction texts with
  | nil => rfl
  | cons s texts ih => simp [text?, ih]

end Json

/-! ## The report of a project -/

namespace Project

theorem contentRecords_heading (n : Node) (members : List (String × Json)) :
    Json.contentRecords (n.heading ++ members) = Json.contentRecords members := by
  simp [Node.heading, Json.contentRecords]

theorem toJson_file {n : Node} (h : n.isFile = true) (ts : List Project) :
    toJson (.node n ts) = .object
      (n.heading ++ [("imports", .ofTexts n.imports), ("parsed", .bool n.source.isSome)]) := by
  rw [toJson, if_pos h]

theorem toJson_folder {n : Node} (h : n.isFile = false) (ts : List Project) :
    toJson (.node n ts) = .object (n.heading ++ [("contents", .list (toJsonAll ts))]) := by
  rw [toJson, h, if_neg Bool.false_ne_true]

mutual

/-- The records in the report of a project are those of its nodes, if nothing lies below a file. -/
theorem records_toJson : (p : Project) → p.FilesAreLeaves →
    p.toJson.records = p.preorder.map toJson
  | .node n ts, h => by
    cases hfile : n.isFile with
    | true =>
      have hts : ts = [] := h (.node n ts) (Tree.self_mem_preorder _) hfile
      subst hts
      rw [toJson_file hfile, Json.records, contentRecords_heading, Tree.preorder, List.map_cons,
        toJson_file hfile]
      simp [Json.contentRecords, Tree.preorderAll]
    | false =>
      have hinside := recordsAll_toJsonAll ts fun t ht => h.of_mem rfl ht
      rw [toJson_folder hfile, Json.records, contentRecords_heading, Tree.preorder, List.map_cons,
        toJson_folder hfile, ← hinside]
      simp [Json.contentRecords, Json.records]

theorem recordsAll_toJsonAll : (ts : List Project) → (∀ t ∈ ts, FilesAreLeaves t) →
    Json.recordsAll (toJsonAll ts) = (Tree.preorderAll ts).map toJson
  | [], _ => rfl
  | t :: ts, h => by
    unfold toJsonAll Json.recordsAll Tree.preorderAll
    rw [List.map_append, records_toJson t (h t (by simp)),
      recordsAll_toJsonAll ts fun u hu => h u (by simp [hu])]

end

theorem get?_toJson_file {n : Node} (h : n.isFile = true) (ts : List Project) :
    (toJson (.node n ts)).get? "type" = some (.text "file") ∧
      (toJson (.node n ts)).get? "path" = some n.path ∧
      (toJson (.node n ts)).get? "imports" = some (.ofTexts n.imports) ∧
      (toJson (.node n ts)).get? "parsed" = some (.bool n.source.isSome) := by
  have hkind : n.kind = .file := by simpa [Node.isFile] using h
  rw [toJson_file h]
  simp [Json.get?, Node.heading, Register.lookup_cons_eq, hkind, NodeKind.text]

theorem get?_toJson_folder {n : Node} (h : n.isFile = false) (ts : List Project) :
    (toJson (.node n ts)).get? "parsed" = none := by
  rw [toJson_folder h]
  simp [Json.get?, Node.heading, Register.lookup_cons_eq]

/-- The record of a node tells of imports exactly if the node is a file that was read. -/
theorem fileImports?_toJson (p : Project) :
    p.toJson.fileImports? =
      if p.label.isParsed then some (p.label.path, p.label.imports) else none := by
  obtain ⟨n, ts⟩ := p
  show _ = if n.isParsed then some (n.path, n.imports) else none
  cases hfile : n.isFile with
  | true =>
    obtain ⟨htype, hpath, himports, hparsed⟩ := get?_toJson_file hfile ts
    unfold Json.fileImports?
    rw [htype, hpath, himports, hparsed]
    cases hsource : n.source with
    | none => simp [Node.isParsed, hsource]
    | some source =>
      have htexts := Json.mapM_text? n.imports
      simp only [Option.isSome_some, and_self, if_true, Node.isParsed, hfile, hsource,
        Bool.and_self, Json.ofTexts, Json.list?, bind, Option.bind, htexts]
      rfl
  | false =>
    simp [Json.fileImports?, get?_toJson_folder hfile, Node.isParsed, hfile]

/-- The records of a report tell of the imports of the files that were read. -/
theorem filterMap_records {p : Project} (h : p.FilesAreLeaves) :
    p.toJson.records.filterMap Json.fileImports? =
      p.parsedFiles.map fun n => (n.path, n.imports) := by
  have hrecord : Json.fileImports? ∘ toJson = fun t : Project =>
      (Option.guard Node.isParsed t.label).map fun n => (n.path, n.imports) := by
    funext t
    rw [Function.comp, fileImports?_toJson]
    cases hparsed : t.label.isParsed <;> simp [Option.guard, hparsed]
  have hfiles : p.parsedFiles = p.nodes.filter Node.isParsed := by
    unfold parsedFiles files
    rw [List.filter_filter]
    congr 1
    funext n
    cases hfile : n.isFile <;> simp [Node.isParsed, hfile]
  rw [records_toJson p h, List.filterMap_map, hrecord, hfiles, nodes, ← List.filterMap_eq_filter,
    List.map_filterMap, List.filterMap_map]
  rfl

/-! ## The law -/

/-- The adjacency of a project in which nothing lies below a file can be read off its report: the
imports in the records of the files that were read, entered under their paths in the order of the
records, give the same paths in the same order with the same imports, or fail over the same path.
So what is printed of the imports of an analysis can be had from what is printed of the whole of
it. -/
theorem adjacency_of_report (p : Project) (h : p.FilesAreLeaves) :
    p.toJson.reportedImports =
        (match p.adjacencyFault? with
        | some f => .error f
        | none => .ok p.adjacency) ∧
      ∀ a : Analysis, a.project = p → ∃ report, a.toJson.get? "tree" = some report ∧
        Command.importsOf a =
          (report.reportedImports.map adjacencyJson).mapError fun f => .failure (.label f) := by
  have hreport : p.toJson.reportedImports =
      (match p.adjacencyFault? with
      | some f => .error f
      | none => .ok p.adjacency) := by
    have hadjacency : (p.parsedFiles.map fun n => (n.path, n.imports)).foldl
        (fun r e => r.put (Label.firstOf r.keys e.1) e.2) .empty = p.adjacency := by
      have hall := Register.foldl_put_firstOf [] (p.parsedFiles.map fun n => (n.path, n.imports))
      simp only [List.nil_append, List.map_nil, List.map_map] at hall
      exact hall
    rw [Json.reportedImports, filterMap_records h, Register.foldlM_enter, hadjacency,
      adjacencyFault?, List.find?_map]
    cases hfind : p.parsedFiles.find? fun n => !n.path.isSimple with
    | none => simp [hfind]
    | some n => simp [hfind]
  refine ⟨hreport, ?_⟩
  rintro a rfl
  refine ⟨a.project.toJson, rfl, ?_⟩
  rw [hreport, Command.importsOf]
  cases a.project.adjacencyFault? <;> rfl

/-! ## A path that comes twice -/

/-- A file that was read, and has nothing in it. -/
def blankFile (path : String) (imports : List String) : Node where
  id := path
  name := .text path
  path := .text path
  kind := .file
  source := some ⟨.javascript, [],
    .node ⟨"program", 0, ⟨0, 0⟩, 0, true, false, false, false, none⟩ []⟩
  imports := imports

/-- A project with two files at one path, a file between them that was read, and a file that was
not. -/
def doubledProject : Project :=
  .node topFolder
    [.node (blankFile "b.js" ["a.js"]) [],
      .node sourceFolder [.node (blankFile "a.js" []) [], .node pageFile []],
      .node (blankFile "b.js" ["m.md", "a.js"]) []]

theorem adjacency_of_report_doubled :
    doubledProject.FilesAreLeaves ∧
      ∃ r, doubledProject.toJson.reportedImports = .ok r ∧ r = doubledProject.adjacency ∧
        r.entries = [(.text "b.js", ["m.md", "a.js"]), (.text "a.js", [])] := by
  have hleaves : doubledProject.FilesAreLeaves := by
    rw [filesAreLeaves_iff]
    decide +kernel
  have hfault : doubledProject.adjacencyFault? = none := by decide +kernel
  obtain ⟨hreport, -⟩ := adjacency_of_report doubledProject hleaves
  rw [hfault] at hreport
  exact ⟨hleaves, _, hreport, rfl, by decide +kernel⟩

end Project

end CodeAtlas
