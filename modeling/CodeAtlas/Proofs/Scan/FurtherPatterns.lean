-- Scans with further patterns. Patterns that take nothing back in and come after the others only
-- make a scan leave out more: what they match is cut from the tree, and the edges, the problems,
-- the progress and the calls are those from before with some of them missing. Of the library for
-- patterns, only its laws are used.
import CodeAtlas.Proofs.Disk.Listing
import CodeAtlas.Proofs.Exclusion.Rules
import CodeAtlas.Proofs.Project.Files
import CodeAtlas.Proofs.Scan.Itinerary

namespace CodeAtlas

/-- The same settings with these rules. -/
def Settings.ruledBy (s : Settings) (rules : Exclusion.Rules) : Settings :=
  { s with rules := some rules }

/-- One of the lines matches the node. -/
def Node.isMatchedBy (L : Exclusion.Library) (lines : List String) (n : Node) : Bool :=
  lines.any fun line => Exclusion.lineMatches L line n.name.shown n.isFolder

/-- One of the lines matches the entry. -/
def Entry.isMatchedBy (L : Exclusion.Library) (lines : List String) (e : Entry) : Bool :=
  lines.any fun line => Exclusion.lineMatches L line e.name.shown (e.kind = .folder)

theorem Node.isMatchedBy_of_place {n : Node} {e : Entry} (hplace : n.place = e.place)
    (L : Exclusion.Library) (lines : List String) :
    n.isMatchedBy L lines = e.isMatchedBy L lines := by
  simp only [Node.place, Entry.place, Prod.mk.injEq] at hplace
  obtain ⟨hkind, hname, -⟩ := hplace
  have hfolder : n.isFolder = decide (e.kind = .folder) := by
    rw [← hkind, Node.isFolder]
    cases n.kind <;> rfl
  rw [Node.isMatchedBy, Entry.isMatchedBy, hname, hfolder]

/-- The second rules leave out what the first ones do, and what one of the lines matches. -/
def Exclusion.Rules.Extended (L : Library) (lines : List String) (rules rules' : Rules) : Prop :=
  ∀ name isFolder, rules'.excluded name isFolder =
    (rules.excluded name isFolder || lines.any fun line => lineMatches L line name isFolder)

namespace Scan

variable {s : Settings} {p : Provider} {n : Nat} {e : Entry} {es : List Entry}
  {events events' : List Event} {h h' : Harvest} {rules rules' : Exclusion.Rules}
  {L : Exclusion.Library} {lines : List String}

/-! ## Thinner harvests -/

/-- The second harvest is the first one without the nodes that are not kept and what lies below
them, and what happens on the way to it is some of what happens on the way to the first. -/
structure Thinner (keep : Node → Bool) (events events' : List Event) (h h' : Harvest) : Prop where
  nodes : h'.nodes = Tree.pruneAll keep h.nodes
  edges : h'.edges.Sublist h.edges
  problems : h'.problems.Sublist h.problems
  progress : (events'.filterMap Event.progress?).Sublist (events.filterMap Event.progress?)
  calls : (events'.filterMap Event.call?).Sublist (events.filterMap Event.call?)

variable {keep : Node → Bool}

theorem Thinner.append {before before' after after' : List Event} {a a' b b' : Harvest}
    (ha : Thinner keep before before' a a') (hb : Thinner keep after after' b b') :
    Thinner keep (before ++ after) (before' ++ after') (a ++ b) (a' ++ b') where
  nodes := by
    rw [Harvest.nodes_append, Harvest.nodes_append, Tree.pruneAll_append, ha.nodes, hb.nodes]
  edges := ha.edges.append hb.edges
  problems := ha.problems.append hb.problems
  progress := by
    rw [List.filterMap_append, List.filterMap_append]
    exact ha.progress.append hb.progress
  calls := by
    rw [List.filterMap_append, List.filterMap_append]
    exact ha.calls.append hb.calls

/-- What is left out leaves nothing but a note. -/
theorem Thinner.leftOut (hthin : Thinner keep events events' h h') (before : List Event)
    (a : Harvest) (hnodes : Tree.pruneAll keep a.nodes = []) (note : Note) :
    Thinner keep (before ++ events) (.noted note :: events') (a ++ h) h' := by
  have hgone : Thinner keep before [.noted note] a .empty :=
    ⟨hnodes.symm, List.nil_sublist _, List.nil_sublist _, List.nil_sublist _, List.nil_sublist _⟩
  exact hgone.append hthin

theorem thinner_refl (hnodes : Tree.pruneAll keep h.nodes = h.nodes) :
    Thinner keep events events h h :=
  ⟨hnodes.symm, .refl _, .refl _, .refl _, .refl _⟩

theorem Thinner.folder (hthin : Thinner keep events events' h h') {m : Node}
    (hm : keep m = true) (path : Label) :
    Thinner keep (.asked (.list path) :: events) (.asked (.list path) :: events')
      ⟨[.node m h.nodes], h.edges, h.problems⟩ ⟨[.node m h'.nodes], h'.edges, h'.problems⟩ where
  nodes := by simp [Tree.pruneAll, Tree.prune, Tree.label, hm, hthin.nodes]
  edges := hthin.edges
  problems := hthin.problems
  progress := hthin.progress
  calls := hthin.calls.cons_cons _

/-! ## Entries -/

theorem excluded_ruledBy (hmore : rules.Extended L lines rules') {b : Bool}
    (hexcluded : (excluded (s.ruledBy rules) e).result = .ok b) :
    (excluded (s.ruledBy rules') e).result = .ok (b || e.isMatchedBy L lines) := by
  rw [excluded_eq_ok_iff] at hexcluded ⊢
  obtain ⟨hrules | htext, rfl⟩ := hexcluded
  · cases hrules
  · obtain ⟨name, hname⟩ := Label.text_of_isText htext
    refine ⟨.inr htext, ?_⟩
    simp only [Entry.isExcluded, Entry.isMatchedBy, hname, Json.text?, Option.any_some, Json.shown]
    exact hmore name _

theorem Takes.ruledBy (htakes : Takes (s.ruledBy rules) p e events h) :
    Takes (s.ruledBy rules') p e events h := by
  cases htakes with
  | plain hname hdialect => exact .plain hname hdialect
  | source hname hdialect hfetch => exact .source hname hdialect hfetch

theorem folderNode_place (s : Settings) (hkind : e.kind = .folder) :
    (folderNode s e.name e.path).place = e.place := by
  simp [Node.place, Entry.place, folderNode, NodeKind.asEntry, hkind]

/-! ## The two scans -/

theorem exists_thinner (hmore : rules.Extended L lines rules')
    (hgathers : Gathers (s.ruledBy rules) p n es events h) :
    ∃ events' h', Gathers (s.ruledBy rules') p n es events' h' ∧
      Thinner (fun m => !m.isMatchedBy L lines) events events' h h' := by
  induction hgathers with
  | nil => exact ⟨[], .empty, .nil, thinner_refl rfl⟩
  | leftOut hexcluded _ ih =>
    obtain ⟨later', rest', hrest, hthin⟩ := ih
    exact ⟨_, _, .leftOut (excluded_ruledBy hmore hexcluded) hrest,
      hthin.leftOut [.noted _] .empty rfl _⟩
  | @other n e es later rest label hkept hkind _ ih =>
    obtain ⟨later', rest', hrest, hthin⟩ := ih
    have hexcluded := excluded_ruledBy hmore hkept
    cases hmatch : e.isMatchedBy L lines with
    | true =>
      rw [hmatch] at hexcluded
      exact ⟨_, _, .leftOut hexcluded hrest, hthin.leftOut [] .empty rfl _⟩
    | false =>
      rw [hmatch] at hexcluded
      exact ⟨_, _, .other hexcluded hkind hrest, hthin⟩
  | @file n e es events later h rest hkept hkind htakes _ ih =>
    obtain ⟨later', rest', hrest, hthin⟩ := ih
    obtain ⟨f, hnodes, htaken⟩ := htakes.takenFrom hkind
    have hexcluded := excluded_ruledBy hmore hkept
    -- the rules look at the entry, the pruning at its node
    rw [← Node.isMatchedBy_of_place htaken.place L lines] at hexcluded
    cases hmatch : f.isMatchedBy L lines with
    | true =>
      rw [hmatch] at hexcluded
      refine ⟨_, _, .leftOut hexcluded hrest, hthin.leftOut _ _ ?_ _⟩
      simp [hnodes, Tree.pruneAll_leaf, hmatch]
    | false =>
      rw [hmatch] at hexcluded
      refine ⟨_, _, .file hexcluded hkind htakes.ruledBy hrest, (thinner_refl ?_).append hthin⟩
      simp [hnodes, Tree.pruneAll_leaf, hmatch]
  | @folder n e es inside events later h rest hkept hkind hlist _ _ ihinside ih =>
    obtain ⟨later', rest', hrest, hthin⟩ := ih
    obtain ⟨events', h', hinside, hthin'⟩ := ihinside
    have hexcluded := excluded_ruledBy hmore hkept
    rw [← Node.isMatchedBy_of_place (folderNode_place (s.ruledBy rules) hkind) L lines] at hexcluded
    cases hmatch : (folderNode (s.ruledBy rules) e.name e.path).isMatchedBy L lines with
    | true =>
      -- the folder is not listed, and its node is cut off with all that was gathered in it
      rw [hmatch] at hexcluded
      refine ⟨_, _, .leftOut hexcluded hrest, hthin.leftOut _ _ ?_ _⟩
      simp [Tree.pruneAll, Tree.label, hmatch]
    | false =>
      rw [hmatch] at hexcluded
      refine ⟨_, _, .folder hexcluded hkind hlist hinside hrest, ?_⟩
      exact (hthin'.folder (by simp [hmatch]) e.path).append hthin

/-- Patterns that are put after those of a project, and of which none is a negation, only prune. If
the scan with the patterns of the project succeeds, then so does the one with the further patterns.
Its tree is the one from before without the nodes below the top that a further pattern matches, and
without what lies below them; and the edges, the problems, the progress and the calls are some of
those from before, in their order. -/
theorem run_with_further_patterns (L : Exclusion.Library) (hL : L.Lawful) (s : Settings)
    (p : Provider) (path : Label) (base extra : List String) (rules : Exclusion.Rules) (scan : Scan)
    (hbase : L.compile base = .ok rules)
    (hvalid : ∀ line ∈ extra, (L.ruleOf line).isOk = true)
    (hplain : ∀ line ∈ extra, Exclusion.isNegation line = false)
    (hrun : (run (s.ruledBy rules) p path).result = .ok scan) :
    ∃ rules' scan', L.compile (base ++ extra) = .ok rules' ∧
      (∀ disk folder, Exclusion.baseLines disk folder = .ok base →
        Exclusion.load L disk folder [] = .ok rules ∧
          Exclusion.load L disk folder extra = .ok rules') ∧
      (run (s.ruledBy rules') p path).result = .ok scan' ∧
      scan'.project = scan.project.prune (fun m => !m.isMatchedBy L extra) ∧
      scan'.edges.Sublist scan.edges ∧ scan'.problems.Sublist scan.problems ∧
      (run (s.ruledBy rules') p path).progress.Sublist (run (s.ruledBy rules) p path).progress ∧
      (run (s.ruledBy rules') p path).calls.Sublist (run (s.ruledBy rules) p path).calls := by
  obtain ⟨rules', hcompile, hmore⟩ := hL.exists_compile_append hbase hvalid hplain
  obtain ⟨n, name, es, later, h, hdepth, hname, hlist, hgathers, hevents, rfl⟩ :=
    (run_gives_iff _ p path _ scan).1 (Run.gives_of_result hrun)
  obtain ⟨later', h', hgathers', hthin⟩ := exists_thinner hmore hgathers
  have hgives := (run_gives_iff (s.ruledBy rules') p path _ _).2
    ⟨n, name, es, later', h', hdepth, hname, hlist, hgathers', rfl, rfl⟩
  refine ⟨rules', _, hcompile, ?_, congrArg Run.result hgives, ?_, hthin.edges,
    hthin.problems, ?_, ?_⟩
  · intro disk folder hfolder
    refine ⟨Exclusion.load_eq_ok hfolder ?_, Exclusion.load_eq_ok hfolder hcompile⟩
    rw [List.append_nil]
    exact hbase
  · rw [hthin.nodes, Tree.prune]
    rfl
  · rw [Run.progress, Run.progress, hevents, hgives]
    exact hthin.progress
  · rw [Run.calls, Run.calls, hevents, hgives]
    exact hthin.calls.cons_cons _

/-- A project with an ignore file of one line and two folders of source files. -/
def layeredDisk : Disk :=
  [(".tsgraphignore", .file (Utf8.encode "*.md\n".toList)),
    ("lib", .folder [("gone.ts", .file (Utf8.encode "function f()\x7bg()\x7d".toList)),
      ("kept.ts", .file (Utf8.encode "function f()\x7bg()\x7d".toList))]),
    ("notes.md", .file []),
    ("out", .folder [("broken.js", .file (Utf8.encode "(".toList))])]

def noteRules : Exclusion.Rules := Exclusion.gitRules ["*.md"]

theorem run_layeredDisk :
    ∃ scan, (run (smallFiles.ruledBy noteRules) (.ofDisk layeredDisk []) (.text "")).result =
        .ok scan ∧
      scan.project.labels.map Node.path = [.text "", .text ".tsgraphignore", .text "lib",
        .text "lib/gone.ts", .text "lib/kept.ts", .text "out", .text "out/broken.js"] ∧
      (scan.project.prune fun m =>
          !m.isMatchedBy Exclusion.gitSyntax ["gone.ts", "out/"]).labels.map Node.path =
        [.text "", .text ".tsgraphignore", .text "lib", .text "lib/kept.ts"] := by
  have hlib := @Provider.list_of_pairwise layeredDisk _ [] ["lib"] (by decide) rfl (by decide)
    (by decide)
  have hout := @Provider.list_of_pairwise layeredDisk _ [] ["out"] (by decide) rfl (by decide)
    (by decide)
  have hgives := (run_gives_iff (smallFiles.ruledBy noteRules) (.ofDisk layeredDisk []) (.text "")
    _ _).2
    ⟨_, _, _, _, _, rfl, rfl, Provider.list_top (by decide) (by decide),
      .file (by decide +kernel) rfl (.plain rfl rfl)
        (.folder (by decide +kernel) rfl hlib
          (.file (by decide +kernel) rfl (.fetched rfl rfl rfl)
            (.file (by decide +kernel) rfl (.fetched rfl rfl rfl) .nil))
          (.leftOut (by decide +kernel)
            (.folder (by decide +kernel) rfl hout
              (.file (by decide +kernel) rfl (.fetched rfl rfl rfl) .nil) .nil))), rfl, rfl⟩
  refine ⟨_, congrArg Run.result hgives, ?_, ?_⟩
  · decide +kernel
  · decide +kernel

/-- Two further patterns, one of which matches a file in a folder and one a folder as a whole. -/
theorem run_with_further_patterns_layered :
    ∃ rules' scan scan',
      Exclusion.load Exclusion.gitSyntax layeredDisk (some []) [] = .ok noteRules ∧
      Exclusion.load Exclusion.gitSyntax layeredDisk (some []) ["gone.ts", "out/"] = .ok rules' ∧
      (run (smallFiles.ruledBy noteRules) (.ofDisk layeredDisk []) (.text "")).result = .ok scan ∧
      scan.project.labels.map Node.path = [.text "", .text ".tsgraphignore", .text "lib",
        .text "lib/gone.ts", .text "lib/kept.ts", .text "out", .text "out/broken.js"] ∧
      (run (smallFiles.ruledBy rules') (.ofDisk layeredDisk []) (.text "")).result = .ok scan' ∧
      scan'.project.labels.map Node.path =
        [.text "", .text ".tsgraphignore", .text "lib", .text "lib/kept.ts"] ∧
      scan'.edges.Sublist scan.edges ∧ scan'.problems.Sublist scan.problems := by
  obtain ⟨scan, hrun, hpaths, hpruned⟩ := run_layeredDisk
  obtain ⟨rules', scan', -, hload, hrun', hproject, hedges, hproblems, -, -⟩ :=
    run_with_further_patterns Exclusion.gitSyntax Exclusion.lawful_gitSyntax smallFiles
      (.ofDisk layeredDisk []) (.text "") ["*.md"] ["gone.ts", "out/"] noteRules scan
      (Exclusion.compile_eq_gitRules (by decide +kernel)) (by decide +kernel) (by decide) hrun
  obtain ⟨hbase, hmore⟩ := hload layeredDisk (some []) (by decide +kernel)
  rw [← hproject] at hpruned
  exact ⟨rules', scan, scan', hbase, hmore, hrun, hpaths, hrun', hpruned, hedges, hproblems⟩

end Scan

end CodeAtlas
