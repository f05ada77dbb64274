-- The calls of a single file. The command that reads one file agrees with an analysis of a project
-- on the same disk about every source file of the project: about its call edges if the file can be
-- read, and about its fault if it cannot.
import CodeAtlas.Command.Perform
import CodeAtlas.Exclusion.GitSyntax
import CodeAtlas.Proofs.Analysis.UnreadFile
import CodeAtlas.Web.Url

namespace CodeAtlas

/-! ## Texts and names -/

theorem Utf8.map_shown_of_charsFrom {position : Nat} {ps : List Piece} {cs : List Char}
    (h : charsFrom position ps = .ok cs) : ps.map Piece.shown = cs := by
  induction ps generalizing position cs with
  | nil =>
    cases h
    rfl
  | cons p ps ih =>
    cases p with
    | broken bytes flaw => cases h
    | char c =>
      unfold charsFrom at h
      split at h
      · rename_i rest hrest
        cases h
        rw [List.map_cons, ih hrest]
        rfl
      · cases h

/-- The text of bytes that are UTF-8 throughout is the same with and without marks. -/
theorem Utf8.decodeLossy_of_decode {bytes : List UInt8} {cs : List Char}
    (h : decode bytes = .ok cs) : decodeLossy bytes = cs :=
  map_shown_of_charsFrom h

/-- The dialect of a path is that of its last component. -/
theorem Dialect.ofPath?_render {cs : List String} {name : String}
    (h : Path.AreComponents (cs ++ [name])) :
    ofPath? (Path.render (cs ++ [name])) = ofPath? name := by
  have hlast : Path.name (Path.render (cs ++ [name])) = name := by
    rw [Path.name_render h, List.getLastD_concat]
  have hname : Path.name name = name := Path.name_of_isComponent (h name (by simp))
  unfold ofPath? Path.suffix
  rw [hlast, hname]

/-- The call edges of a file. One that was not read has none. -/
def Node.callEdges (f : Node) : List CallEdge := (f.source.map Source.callEdges).getD []

theorem Node.flatMap_callEdges (fs : List Node) :
    fs.flatMap Node.callEdges = (fs.filterMap Node.source).flatMap Source.callEdges := by
  induction fs with
  | nil => rfl
  | cons f fs ih =>
    rw [List.flatMap_cons, ih]
    cases hsource : f.source <;> simp [Node.callEdges, hsource]

namespace Scan

variable {s : Settings} {p : Provider} {project : Project} {f : Node}

/-! ## Files of a scan -/

/-- A file that is not too large has the source that is read from its text. -/
theorem ReadAsListed.source_eq_toOption (h : ReadAsListed s p project f) {d : Dialect}
    {text : String} (hd : f.dialect? = some d) (htext : f.text = some text)
    (hsize : byteCount text ≤ s.limit) : f.source = (Source.read s.grammar d text).toOption := by
  unfold Source.read
  cases hfaulty : (s.grammar.phrase d text).label.faulty with
  | true =>
    have hnone : ¬ f.source.isSome = true := by
      rw [h.source_iff]
      rintro ⟨d', text', hd', htext', -, hfine⟩
      cases hd.symm.trans hd'
      cases htext.symm.trans htext'
      cases hfine.symm.trans hfaulty
    simpa [hfaulty, Except.toOption] using hnone
  | false =>
    obtain ⟨source, hsource⟩ :=
      Option.isSome_iff_exists.1 (h.source_iff.2 ⟨d, text, hd, htext, hsize, hfaulty⟩)
    obtain ⟨d', text', hd', htext', rfl⟩ := h.source_eq source hsource
    cases hd.symm.trans hd'
    cases htext.symm.trans htext'
    simp [hfaulty, hsource, Except.toOption]

end Scan

/-! ## The command -/

namespace Command

theorem sourceIn_eq {w : World} {file : String} {bytes : List UInt8} {cs : List Char} {d : Dialect}
    (hread : w.disk.read (Path.components file) = .ok bytes) (hvalid : Utf8.decode bytes = .ok cs)
    (hd : Dialect.ofPath? (Path.render (Path.components file)) = some d) :
    sourceIn w file = (Source.read w.grammar d (Provider.fileText bytes)).mapError
      fun fault => .source (.fault (Path.render (Path.components file)) fault) := by
  have htext : Provider.fileText bytes = String.ofList (Lines.unify cs) := by
    rw [Provider.fileText, Utf8.decodeLossy_of_decode hvalid]
  unfold sourceIn Source.readAt
  simp only [hread, hd, Except.mapError, bind, Except.bind]
  rw [hvalid, htext]
  dsimp only
  cases Source.read w.grammar d (String.ofList (Lines.unify cs)) with
  | error fault => rfl
  | ok source => rfl

/-- For a source file of a scanned project, the command reads what the scan has read. -/
theorem sourceIn_of_run {w : World} {rules : Option Exclusion.Rules} {limit : Int}
    {root : List String} {start : Label} {scan : Scan} {f : Node} {file : String}
    (hdisk : w.disk.WellFormed)
    (hrun : (Scan.run ⟨w.grammar, rules, limit, w.identify⟩ (.ofDisk w.disk root) start).result =
      .ok scan)
    (hf : f ∈ scan.project.files) (hdialect : f.dialect?.isSome = true)
    (hfile : Path.components file = root ++ Path.components f.path.shown) :
    ∃ bytes d, w.disk.read (Path.components file) = .ok bytes ∧ f.dialect? = some d ∧
      f.text = some (Provider.fileText bytes) ∧
      ∀ cs, Utf8.decode bytes = .ok cs →
        sourceIn w file = (Source.read w.grammar d (Provider.fileText bytes)).mapError
          fun fault => .source (.fault (Path.render (Path.components file)) fault) := by
  obtain ⟨cs, name, bytes, hcomponents, hname, hpath, hread, htext⟩ :=
    Scan.exists_bytes_of_run hdisk hrun hf hdialect
  obtain ⟨d, hd⟩ := Option.isSome_iff_exists.1 hdialect
  have hplace : Path.components file = root ++ cs ++ [name] := by
    rw [hfile, hpath, Json.shown, Path.components_render hcomponents, List.append_assoc]
  have hofPath : Dialect.ofPath? (Path.render (Path.components file)) = some d := by
    have hall := Path.areComponents_components file
    have hlast : Dialect.ofPath? name = some d := by
      simpa [Node.dialect?, hname, Json.text?] using hd
    rw [hplace] at hall ⊢
    exact (Dialect.ofPath?_render hall).trans hlast
  rw [← List.append_assoc, ← hplace] at hread
  exact ⟨bytes, d, hread, hd, htext, fun _ hvalid => sourceIn_eq hread hvalid hofPath⟩

/-- For a source file of a scanned project that is not too large, the command has the edges of the
file, or fails with the fault of its record. -/
theorem fileCalls_of_run {w : World} {rules : Option Exclusion.Rules} {limit : Int}
    {root : List String} {start : Label} {scan : Scan} {f : Node} {file : String}
    (hdisk : w.disk.WellFormed)
    (hrun : (Scan.run ⟨w.grammar, rules, limit, w.identify⟩ (.ofDisk w.disk root) start).result =
      .ok scan)
    (hf : f ∈ scan.project.files) (hdialect : f.dialect?.isSome = true)
    (hfile : Path.components file = root ++ Path.components f.path.shown) :
    ∃ bytes, w.disk.read (Path.components file) = .ok bytes ∧
      ∀ cs, Utf8.decode bytes = .ok cs → byteCount (String.ofList (Lines.unify cs)) ≤ limit →
        f.source.isSome = true ∧ (fileCalls w file).result = .ok f.callEdges ∨
        f.source = none ∧ ∃ r fault, scan.problems.filter (fun r => r.path = f.path) = [r] ∧
          r.problem.location? = some fault.location ∧ r.problem.message = fault.detail.message ∧
          (fileCalls w file).result =
            .error (.source (.fault (Path.render (Path.components file)) fault)) := by
  obtain ⟨bytes, d, hread, hd, htext, hsourceIn⟩ := sourceIn_of_run hdisk hrun hf hdialect hfile
  refine ⟨bytes, hread, ?_⟩
  intro cs hvalid hsize
  rw [← Utf8.decodeLossy_of_decode hvalid] at hsize
  have hsource := (Scan.readAsListed_of_run hrun f hf).source_eq_toOption hd htext hsize
  have hcalls : (fileCalls w file).result = (sourceIn w file).map Source.callEdges := rfl
  rw [hcalls, hsourceIn cs hvalid]
  -- both sides come from one reading of the same text in the same dialect
  cases hresult : Source.read w.grammar d (Provider.fileText bytes) with
  | ok source =>
    left
    rw [hresult] at hsource
    simp [hsource, Node.callEdges, Except.toOption, Except.mapError, Except.map]
  | error fault =>
    right
    rw [hresult] at hsource
    have hunread : f.isUnread = true := by
      simp [Node.isUnread, hdialect, hsource, Except.toOption]
    obtain ⟨r, hfilter, -, d', text, hd', htext', -, -, hfault⟩ :=
      Scan.exists_record_of_run hdisk hrun hf hunread
    cases hd.symm.trans hd'
    cases htext.symm.trans htext'
    obtain ⟨fault', hresult', hlocation, hmessage⟩ := hfault hsize
    cases hresult.symm.trans hresult'
    exact ⟨hsource, r, fault, hfilter, hlocation, hmessage, rfl⟩

/-- The calls of a single file and the analysis of a project agree. The edges of an analysis are
those of its files, one file after the other. A source file of the project can be read from the
disk; and if its bytes are UTF-8 and its text is not too large, then its calls are the edges that
it adds to the analysis, or they fail with a fault that has the location and the detail of the one
record of the file. -/
theorem fileCalls_agrees_with_analysis (w : World) (rules : Option Exclusion.Rules) (limit : Int)
    (root : List String) (start : Label) (a : Analysis) (f : Node) (file : String)
    (hdisk : w.disk.WellFormed)
    (hrun : (Analysis.run ⟨w.grammar, rules, limit, w.identify⟩ (.ofDisk w.disk root)
      start).result = .ok a)
    (hf : f ∈ a.project.files) (hdialect : f.dialect?.isSome = true)
    (hfile : Path.components file = root ++ Path.components f.path.shown) :
    a.edges = a.project.files.flatMap Node.callEdges ∧
      ∃ bytes, w.disk.read (Path.components file) = .ok bytes ∧
        ∀ cs, Utf8.decode bytes = .ok cs →
          byteCount (String.ofList (Lines.unify cs)) ≤ limit →
          f.source.isSome = true ∧ (fileCalls w file).result = .ok f.callEdges ∨
          f.source = none ∧ ∃ r fault, a.problems.filter (fun r => r.path = f.path) = [r] ∧
            r.problem.location? = some fault.location ∧
            r.problem.message = fault.detail.message ∧
            (fileCalls w file).result =
              .error (.source (.fault (Path.render (Path.components file)) fault)) := by
  obtain ⟨scan, hscan, -, rfl⟩ := (Analysis.run_eq_ok_iff _ _ _ _).1 hrun
  have hfiles : scan.project.importGraph.files =
      scan.project.files.map scan.project.resolveImports :=
    Project.files_map scan.project.isFile_resolveImports scan.project
  obtain ⟨g, hg, rfl⟩ := List.mem_map.1 (hfiles ▸ hf)
  have hbare := scan.project.resolveImports_bare
  have hedges : ∀ n, (scan.project.resolveImports n).callEdges = n.callEdges :=
    fun n => Node.congr_bare (fun _ => rfl) (hbare n)
  have hkeeps : (scan.project.resolveImports g).dialect? = g.dialect? :=
    Node.congr_bare (fun _ => rfl) (hbare g)
  rw [hkeeps] at hdialect
  rw [Project.path_resolveImports] at hfile
  rw [hedges, Project.source_resolveImports, Project.path_resolveImports]
  refine ⟨?_, fileCalls_of_run hdisk hscan hg hdialect hfile⟩
  show scan.edges = scan.project.importGraph.files.flatMap Node.callEdges
  rw [hfiles, List.flatMap_map, Scan.edges_of_run hscan, Project.filterMap_source_parsedFiles,
    ← Node.flatMap_callEdges]
  simp only [hedges]

/-- A project in a folder of the disk, with a file that has a call and one that breaks off. -/
def nestedWorld : World where
  disk := [("project", .folder [("lib", .folder
    [("broken.js", .file (Utf8.encode "(".toList)),
      ("main.ts", .file (Utf8.encode "function f()\x7bg()\x7d".toList))])])]
  web := .ofReplies []
  token := none
  grammar := Scan.smallFiles.grammar
  patterns := Exclusion.gitSyntax
  identify := id
  letters := .refused

theorem wellFormed_nestedWorld : nestedWorld.disk.WellFormed := by
  simp only [nestedWorld, Disk.WellFormed, Disk.ItemWellFormed]
  decide

theorem run_nestedWorld :
    ∃ a, (Analysis.run ⟨nestedWorld.grammar, none, 20, nestedWorld.identify⟩
        (.ofDisk nestedWorld.disk ["project"]) (.text "")).result = .ok a ∧
      (∃ f ∈ a.project.files, f.path = .text "lib/main.ts" ∧ f.dialect?.isSome = true ∧
        f.source.isSome = true ∧ f.callEdges.map CallEdge.callee = ["g"]) ∧
      ∃ f ∈ a.project.files, f.path = .text "lib/broken.js" ∧ f.dialect?.isSome = true ∧
        f.source.isSome = false := by
  have htop := @Provider.listFolder_of_pairwise nestedWorld.disk _ ["project"] [] rfl (by decide)
    (by decide)
  have hlib := @Provider.list_of_pairwise nestedWorld.disk _ ["project"] ["lib"] (by decide) rfl
    (by decide) (by decide)
  have hgives := (Scan.run_gives_iff ⟨nestedWorld.grammar, none, 20, nestedWorld.identify⟩
    (.ofDisk nestedWorld.disk ["project"]) (.text "") _ _).2
    ⟨_, _, _, _, _, rfl, rfl, htop, .folder rfl rfl hlib
      (.file rfl rfl (.fetched rfl rfl rfl) (.file rfl rfl (.fetched rfl rfl rfl) .nil)) .nil,
      rfl, rfl⟩
  refine ⟨_, (Analysis.run_eq_ok_iff _ _ _ _).2 ⟨_, congrArg Run.result hgives, ?_, rfl⟩, ?_, ?_⟩
  · decide +kernel
  · decide +kernel
  · decide +kernel

/-- The command is given both files by a path that starts above the project. -/
theorem fileCalls_agrees_with_analysis_nested :
    ∃ a f g r fault, (Analysis.run ⟨nestedWorld.grammar, none, 20, nestedWorld.identify⟩
        (.ofDisk nestedWorld.disk ["project"]) (.text "")).result = .ok a ∧
      f ∈ a.project.files ∧ f.callEdges.map CallEdge.callee = ["g"] ∧
      (fileCalls nestedWorld "./project//lib/main.ts").result = .ok f.callEdges ∧
      g ∈ a.project.files ∧ a.problems.filter (fun r => r.path = g.path) = [r] ∧
      r.problem.location? = some fault.location ∧ r.problem.message = fault.detail.message ∧
      (fileCalls nestedWorld "project/lib/broken.js").result =
        .error (.source (.fault "project/lib/broken.js" fault)) := by
  obtain ⟨a, hrun, ⟨f, hf, hpath, hdialect, hsome, hedges⟩, g, hg, hgpath, hgdialect, hnone⟩ :=
    run_nestedWorld
  obtain ⟨-, bytes, hread, hcalls⟩ := fileCalls_agrees_with_analysis nestedWorld none 20 ["project"]
    (.text "") a f "./project//lib/main.ts" wellFormed_nestedWorld hrun hf hdialect
    (by rw [hpath]; decide)
  cases hread
  obtain ⟨-, bytes, hread, hfails⟩ := fileCalls_agrees_with_analysis nestedWorld none 20 ["project"]
    (.text "") a g "project/lib/broken.js" wellFormed_nestedWorld hrun hg hgdialect
    (by rw [hgpath]; decide)
  cases hread
  rcases hcalls "function f()\x7bg()\x7d".toList (by decide +kernel) (by decide) with
    ⟨-, hcalls⟩ | ⟨hsource, -⟩
  · rcases hfails ['('] (by decide +kernel) (by decide) with
      ⟨hsource, -⟩ | ⟨-, r, fault, hrecord, hlocation, hmessage, herror⟩
    · cases hsource.symm.trans hnone
    · exact ⟨a, f, g, r, fault, hrun, hf, hedges, hcalls, hg, hrecord, hlocation, hmessage, herror⟩
  · rw [hsource] at hsome
    cases hsome

end Command

end CodeAtlas
