-- The client of a command that analyses a project. It is opened only for a repository that the
-- target names, and closed however the command ends, with nothing asked for afterwards; and only a
-- command that succeeds prints something, which is one document, unless it was asked for help.
import CodeAtlas.Command.Perform
import CodeAtlas.Json.Reader
import CodeAtlas.Web.Url
import Mathlib.Data.List.Basic

namespace CodeAtlas.Command

/-! ## One thing after another -/

namespace Performance

variable {α β : Type}

theorem plain_ok_bind (a : α) (f : α → Performance β) : plain (.ok a) >>= f = f a := by
  simp [bind, next, plain]

/-- What needs no more than what came out adds nothing to what happened. -/
theorem bind_plain (p : Performance α) (f : α → Except CommandError β) :
    (p >>= fun a => plain (f a)) = ⟨p.events, p.client, p.result.bind f⟩ := by
  simp only [bind, next]
  cases p.result <;> simp [plain, Except.bind]

end Performance

/-! ## The analysis of a target -/

variable {w : World} {target : String} {exclude : List String} {rules : Exclusion.Rules}
  {address : Address}

def repositoryAt (address : Address) : Repository := ⟨address.owner, address.repo⟩

/-- How a command scans by some rules. -/
def settingsBy (w : World) (rules : Exclusion.Rules) : Settings :=
  ⟨w.grammar, some rules, defaultLimit, w.identify⟩

/-- Rules that are given need not be looked for. -/
theorem settings_eq (w : World) (rules : Exclusion.Rules) :
    w.settings rules = .ok (settingsBy w rules) := rfl

/-- The analysis of what is at an address. -/
def runAt (w : World) (rules : Exclusion.Rules) (address : Address) : Run Analysis :=
  Analysis.run (settingsBy w rules) (.ofRepository w.web (repositoryAt address))
    (.text address.path)

/-- The analysis of a target comes to the web: there are rules, the target is an address, and a
session can be started. -/
structure Reaches (w : World) (target : String) (exclude : List String) (rules : Exclusion.Rules)
    (address : Address) : Prop where
  load : Exclusion.load w.patterns w.disk (ignoreFolder? target) exclude = .ok rules
  isWebTarget : isWebTarget target = true
  parse : Address.parse target = .ok address
  start : ∃ session, Session.start (repositoryAt address) w.token = .ok session

/-- The access to a place is given up when the run over it has ended, in success or failure. -/
theorem analysis_of_place {place : Place}
    (hload : Exclusion.load w.patterns w.disk (ignoreFolder? target) exclude = .ok rules)
    (hplace : placeOf w.disk target = .ok place) :
    analysis w target exclude = Access.gain w place >>= fun access =>
      (access.follow (Analysis.run (settingsBy w rules) access.provider access.start)).ensuring
        access.givingUp := by
  unfold analysis
  simp only [hload, hplace, settings_eq]
  exact (Performance.plain_ok_bind _ _).trans (Performance.plain_ok_bind _ _)

theorem analysis_of_reaches (h : Reaches w target exclude rules address) :
    analysis w target exclude =
      ⟨(runAt w rules address).events,
        .opened :: ((repositoryAt address).requests (runAt w rules address)).map .requested ++
          [.closed],
        (runAt w rules address).result.mapError .failure⟩ := by
  have hplace : placeOf w.disk target = .ok (.repository (repositoryAt address) address.path) := by
    unfold placeOf
    rw [h.isWebTarget, h.parse]
    rfl
  obtain ⟨session, hstart⟩ := h.start
  have hrepository : session.repository = repositoryAt address := Session.repository_of_start hstart
  have hgain : Access.gain w (.repository (repositoryAt address) address.path) =
      ⟨[], [.opened], .ok ⟨.ofRepository w.web (repositoryAt address), .text address.path,
        some session⟩⟩ := by
    simp [Access.gain, hstart]
  rw [analysis_of_place h.load hplace, hgain]
  simp [bind, Performance.next, Performance.ensuring, Access.follow, Access.givingUp, hrepository,
    runAt]

theorem analysis_of_loadError {e : Exclusion.LoadError}
    (hload : Exclusion.load w.patterns w.disk (ignoreFolder? target) exclude = .error e) :
    analysis w target exclude = .plain (.error (.rules e)) := by
  unfold analysis
  rw [hload]
  rfl

theorem analysis_of_placeError {e : PlaceError}
    (hload : Exclusion.load w.patterns w.disk (ignoreFolder? target) exclude = .ok rules)
    (hplace : placeOf w.disk target = .error e) :
    analysis w target exclude = .plain (.error (.place e)) := by
  unfold analysis
  rw [hload, hplace]
  rfl

theorem placeOf_of_badAddress {e : BadAddress} (hweb : isWebTarget target = true)
    (hparse : Address.parse target = .error e) (disk : Disk) :
    placeOf disk target = .error (.address e) := by
  unfold placeOf
  rw [hweb, hparse]
  rfl

theorem exists_address_of_placeOf {disk : Disk} {r : Repository} {start : String}
    (h : placeOf disk target = .ok (.repository r start)) :
    isWebTarget target = true ∧ ∃ address, Address.parse target = .ok address ∧
      r = repositoryAt address := by
  unfold placeOf at h
  cases hweb : isWebTarget target with
  | false =>
    rw [hweb, if_neg Bool.false_ne_true] at h
    split at h <;> cases h
  | true =>
    refine ⟨rfl, ?_⟩
    rw [hweb, if_pos rfl] at h
    cases hparse : Address.parse target with
    | error e =>
      rw [hparse] at h
      cases h
    | ok address =>
      rw [hparse] at h
      cases h
      exact ⟨address, rfl, rfl⟩

theorem client_analysis_eq_nil (h : ∀ rules address, ¬ Reaches w target exclude rules address) :
    (analysis w target exclude).client = [] := by
  cases hload : Exclusion.load w.patterns w.disk (ignoreFolder? target) exclude with
  | error e =>
    rw [analysis_of_loadError hload]
    rfl
  | ok rules =>
    cases hplace : placeOf w.disk target with
    | error e =>
      rw [analysis_of_placeError hload hplace]
      rfl
    | ok place =>
      cases place with
      | folder root =>
        rw [analysis_of_place hload hplace]
        rfl
      | repository r start =>
        obtain ⟨hweb, address, hparse, rfl⟩ := exists_address_of_placeOf hplace
        cases hstart : Session.start (repositoryAt address) w.token with
        | error e =>
          rw [analysis_of_place hload hplace]
          simp [Access.gain, hstart, bind, Performance.next, Performance.plain]
        | ok session => exact absurd ⟨hload, hweb, hparse, session, hstart⟩ (h rules address)

/-! ## Tasks and their outcomes -/

/-- The target and the further patterns of a task that analyses a project. -/
def Task.project? : Task → Option (String × List String)
  | .analyze target exclude _ | .imports target exclude _ => some (target, exclude)
  | .calls _ | .resolve _ _ => none

/-- The document that a task makes of the analysis of its project. -/
def Task.documentOf (task : Task) (a : Analysis) : Except CommandError Json :=
  match task with
  | .imports _ _ _ => importsOf a
  | _ => .ok a.toJson

variable {task : Task}

/-- A task on a project analyses it, and then makes the document without the client. -/
theorem perform_eq (h : task.project? = some (target, exclude)) :
    perform w task = ⟨(analysis w target exclude).events, (analysis w target exclude).client,
      ((analysis w target exclude).result.bind task.documentOf).map .document⟩ := by
  cases task with
  | analyze target exclude progress =>
    cases h
    simp only [perform, Performance.map]
    cases (analysis w target exclude).result <;> rfl
  | imports target exclude progress =>
    cases h
    simp only [perform, Performance.bind_plain]
    cases (analysis w target exclude).result <;> rfl
  | calls file => cases h
  | resolve specifier file => cases h

theorem client_carryOut (w : World) (i : Invocation) :
    (carryOut w i).client = (perform w i.task).client := by
  unfold carryOut
  cases hresult : (perform w i.task).result with
  | ok output => simp [hresult]
  | error e => cases hexpected : e.isExpected <;> simp [hresult, hexpected]

theorem carryOut_of_ok {i : Invocation} {output : Output}
    (h : (perform w i.task).result = .ok output) :
    (carryOut w i).exit = .code 0 ∧ (carryOut w i).out = output.text := by
  simp [carryOut, h]

/-- A command that fails prints nothing. It says so if the failure is expected. -/
theorem carryOut_of_error {i : Invocation} {e : CommandError}
    (h : (perform w i.task).result = .error e) :
    (carryOut w i).out = "" ∧
      (e.isExpected = true ∧ (carryOut w i).exit = .code 1 ∧
          (carryOut w i).err = (perform w i.task).events.filterMap
            (eventLine? i.verbose i.task.progress) ++ ["Error: " ++ e.message] ∨
        e.isExpected = false ∧ (carryOut w i).exit = .escaped e) := by
  cases hexpected : e.isExpected with
  | true => simp [carryOut, h, hexpected]
  | false => simp [carryOut, h, hexpected]

/-- The failure of an analysis that comes to no place is the failure of the command. -/
theorem carryOut_of_analysis_error {i : Invocation} {e : CommandError}
    (htask : i.task.project? = some (target, exclude))
    (h : analysis w target exclude = .plain (.error e)) :
    (carryOut w i).client = [] ∧ (carryOut w i).out = "" ∧
      (e.isExpected = true →
        (carryOut w i).exit = .code 1 ∧ (carryOut w i).err = ["Error: " ++ e.message]) := by
  have hperform : perform w i.task = .plain (.error e) := by
    rw [perform_eq htask, h]
    rfl
  have hresult : (perform w i.task).result = .error e := by rw [hperform]; rfl
  obtain ⟨hout, hends⟩ := carryOut_of_error hresult
  refine ⟨by rw [client_carryOut, hperform]; rfl, hout, ?_⟩
  intro hexpected
  rcases hends with ⟨-, hexit, herr⟩ | ⟨hunexpected, -⟩
  · rw [hperform] at herr
    exact ⟨hexit, herr⟩
  · simp [hexpected] at hunexpected

/-- An address that is none is told of, unless the rules fail before it is looked at. -/
theorem carryOut_of_badAddress {i : Invocation} {e : BadAddress}
    (htask : i.task.project? = some (target, exclude)) (hweb : isWebTarget target = true)
    (hparse : Address.parse target = .error e) :
    (carryOut w i).client = [] ∧ (carryOut w i).out = "" ∧
      ∀ rules, Exclusion.load w.patterns w.disk (ignoreFolder? target) exclude = .ok rules →
        (carryOut w i).exit = .code 1 ∧ (carryOut w i).err = ["Error: " ++ e.message] := by
  have hplace := placeOf_of_badAddress hweb hparse w.disk
  cases hload : Exclusion.load w.patterns w.disk (ignoreFolder? target) exclude with
  | error f =>
    obtain ⟨hclient, hout, -⟩ := carryOut_of_analysis_error htask (analysis_of_loadError hload)
    exact ⟨hclient, hout, fun rules h => by cases h⟩
  | ok rules =>
    obtain ⟨hclient, hout, htold⟩ :=
      carryOut_of_analysis_error htask (analysis_of_placeError hload hplace)
    exact ⟨hclient, hout, fun _ _ => htold rfl⟩

theorem text_document_ne (j : Json) : (Output.document j).text ≠ "" := by
  intro h
  have hnil := congrArg String.toList h
  simp [Output.text] at hnil

/-- A command on a project succeeds with the document of the analysis, or fails. -/
theorem carryOut_cases {i : Invocation} (h : i.task.project? = some (target, exclude)) :
    (∃ a document, (analysis w target exclude).result = .ok a ∧
        i.task.documentOf a = .ok document ∧ (carryOut w i).exit = .code 0 ∧
        (carryOut w i).out = document.pretty ++ "\n") ∨
      (carryOut w i).out = "" ∧ ((carryOut w i).exit = .code 1 ∨
        ∃ e, e.isExpected = false ∧ (carryOut w i).exit = .escaped e) := by
  have hresult : (perform w i.task).result =
      ((analysis w target exclude).result.bind i.task.documentOf).map .document := by
    rw [perform_eq h]
  cases hbind : (analysis w target exclude).result.bind i.task.documentOf with
  | error e =>
    right
    rw [hbind] at hresult
    obtain ⟨hout, ⟨-, hexit, -⟩ | ⟨hunexpected, hexit⟩⟩ := carryOut_of_error hresult
    · exact ⟨hout, .inl hexit⟩
    · exact ⟨hout, .inr ⟨e, hunexpected, hexit⟩⟩
  | ok document =>
    left
    rw [hbind] at hresult
    obtain ⟨hexit, hout⟩ := carryOut_of_ok hresult
    cases hanalysis : (analysis w target exclude).result with
    | error e =>
      rw [hanalysis] at hbind
      cases hbind
    | ok a =>
      rw [hanalysis] at hbind
      exact ⟨a, document, rfl, hbind, hexit, hout⟩

/-! ## Help -/

theorem exists_help_eq (verb : Option Verb) : ∃ rest, help verb = "usage:" ++ rest := by
  unfold help usage
  simp only [List.cons_append, List.map_cons, String.join_cons, String.intercalate_cons_cons,
    String.append_assoc]
  exact ⟨_, rfl⟩

/-- No document starts as the help does. -/
theorem parse?_help (verb : Option Verb) : Json.parse? (help verb) = none := by
  obtain ⟨rest, hhelp⟩ := exists_help_eq verb
  have hchars : (help verb).toList = 'u' :: ("sage:".toList ++ rest.toList) := by
    rw [hhelp, String.toList_append]
    rfl
  have hskip : Json.skip ('u' :: ("sage:".toList ++ rest.toList)) =
      'u' :: ("sage:".toList ++ rest.toList) := rfl
  unfold Json.parse? Json.document
  rw [hchars, hskip, Json.value]
  · simp [Json.word?, Json.words, Json.after?, List.isPrefixOf?, Json.number, Json.digits?,
      Json.haltAt, Except.toOption]
  -- the first letter opens neither a text nor a list nor an object
  all_goals
    intro more heq
    cases heq

/-! ## The law -/

/-- Whatever a command does that is given a project to analyse: if it comes to the web, it opens a
client, makes the requests of the analysis and closes the client, in success or failure; otherwise
it opens none. An address that is none is told with the code for failure, before a client is
opened. The command ends with the code for success or the one for failure, or by an error that is
not expected. It prints something exactly if it succeeds, and this is the document of what was
found. A command line that is not understood opens no client and prints nothing, and one that asks
for help opens none and prints the help, which is no document. -/
theorem run_closes_client (w : World) (arguments : List String) :
    (∀ verb, read w.letters arguments = .error (.help verb) →
      (run w arguments).client = [] ∧ (run w arguments).out = help verb ∧
        Json.parse? (run w arguments).out = none ∧ (run w arguments).exit = .code 0) ∧
    (∀ e, read w.letters arguments = .error (.misuse e) →
      (run w arguments).client = [] ∧ (run w arguments).out = "" ∧
        (run w arguments).exit = .code 2) ∧
    ∀ verbose task target exclude, read w.letters arguments = .ok ⟨verbose, task⟩ →
      task.project? = some (target, exclude) →
      (∀ rules address, Reaches w target exclude rules address →
        (run w arguments).client =
          .opened :: ((repositoryAt address).requests (runAt w rules address)).map .requested ++
            [.closed]) ∧
      ((∀ rules address, ¬ Reaches w target exclude rules address) →
        (run w arguments).client = []) ∧
      (∀ e, isWebTarget target = true → Address.parse target = .error e →
        (run w arguments).client = [] ∧ (run w arguments).out = "" ∧
          ∀ rules, Exclusion.load w.patterns w.disk (ignoreFolder? target) exclude = .ok rules →
            (run w arguments).exit = .code 1 ∧
              (run w arguments).err = ["Error: " ++ e.message]) ∧
      ((run w arguments).exit = .code 0 ∨ (run w arguments).exit = .code 1 ∨
        ∃ e, e.isExpected = false ∧ (run w arguments).exit = .escaped e) ∧
      ((run w arguments).out ≠ "" ↔ (run w arguments).exit = .code 0) ∧
      ((run w arguments).exit = .code 0 → ∃ a document,
        (analysis w target exclude).result = .ok a ∧ task.documentOf a = .ok document ∧
          (run w arguments).out = document.pretty ++ "\n") := by
  refine ⟨?_, ?_, ?_⟩
  · intro verb hread
    simp [run, hread, parse?_help]
  · intro e hread
    simp [run, hread]
  intro verbose task target exclude hread htask
  have hrun : run w arguments = carryOut w ⟨verbose, task⟩ := by
    simp [run, hread]
  have hclient : (carryOut w ⟨verbose, task⟩).client = (analysis w target exclude).client := by
    rw [client_carryOut, perform_eq htask]
  rw [hrun]
  refine ⟨?_, ?_, fun e => carryOut_of_badAddress htask, ?_⟩
  · intro rules address hreaches
    rw [hclient, analysis_of_reaches hreaches]
  · intro hnone
    rw [hclient]
    exact client_analysis_eq_nil hnone
  · rcases carryOut_cases (w := w) (i := ⟨verbose, task⟩) htask with
      ⟨a, document, hanalysis, hdocument, hexit, hout⟩ | ⟨hout, hexit⟩
    · have hne : (carryOut w ⟨verbose, task⟩).out ≠ "" := by
        rw [hout]
        exact text_document_ne document
      refine ⟨.inl hexit, by simp [hne, hexit], fun _ => ?_⟩
      exact ⟨a, document, hanalysis, hdocument, hout⟩
    · have hne : (carryOut w ⟨verbose, task⟩).exit ≠ .code 0 := by
        rcases hexit with hexit | ⟨e, -, hexit⟩ <;> simp [hexit]
      exact ⟨.inr hexit, by simp [hout, hne], fun h => absurd h hne⟩

/-- A library that passes over all lines. -/
def noPatterns : Exclusion.Library := ⟨fun _ => .ok none, fun _ => .ok ⟨fun _ => false⟩⟩

/-- A repository with a folder whose listing has an item without a path. -/
def pathlessWorld : World where
  disk := []
  web := .ofReplies
    [("/repos/o/r/contents/", .answer 200 (.json (.list [.object [("type", .text "dir"),
        ("name", .text "src"), ("path", .text "src")]]))),
      ("/repos/o/r/contents/src", .answer 200 (.json (.list [.object [("type", .text "file"),
        ("name", .text "a.ts")]])))]
  token := some "secret"
  grammar := .ofReadings []
  patterns := noPatterns
  identify := id
  letters := .refused

/-- The missing path ends the program by an error that is not expected, and the client is closed
all the same. -/
theorem run_closes_client_pathless :
    (run pathlessWorld ["imports", "https://github.com/o/r"]).exit =
        .escaped (.failure (.noMember "path")) ∧
      (run pathlessWorld ["imports", "https://github.com/o/r"]).client =
        [.opened, .requested (.text "/repos/o/r/contents/"),
          .requested (.text "/repos/o/r/contents/src"), .closed] ∧
      (run pathlessWorld ["imports", "https://github.com/o/r"]).out = "" := by
  have hexit : (run pathlessWorld ["imports", "https://github.com/o/r"]).exit =
      .escaped (.failure (.noMember "path")) := by
    decide +kernel
  have hrequests : (repositoryAt ⟨"o", "r", ""⟩).requests
      (runAt pathlessWorld ⟨fun _ => false⟩ ⟨"o", "r", ""⟩) =
        [.text "/repos/o/r/contents/", .text "/repos/o/r/contents/src"] := by
    decide +kernel
  have hreaches : Reaches pathlessWorld "https://github.com/o/r" [] ⟨fun _ => false⟩
      ⟨"o", "r", ""⟩ :=
    ⟨rfl, by decide, by decide +kernel, _, rfl⟩
  obtain ⟨hclient, -, -, -, hprinted, -⟩ :=
    (run_closes_client pathlessWorld ["imports", "https://github.com/o/r"]).2.2 false
      (.imports "https://github.com/o/r" [] false) "https://github.com/o/r" [] (by decide +kernel)
      rfl
  refine ⟨hexit, ?_, ?_⟩
  · rw [hclient _ _ hreaches, hrequests]
    rfl
  · by_contra hne
    cases hexit.symm.trans (hprinted.1 hne)

/-- Who asks for help is given no document, though the command succeeds. -/
theorem help_is_no_document :
    (run pathlessWorld ["analyze", "--help"]).exit = .code 0 ∧
      (run pathlessWorld ["analyze", "--help"]).client = [] ∧
      (run pathlessWorld ["analyze", "--help"]).out ≠ "" ∧
      Json.parse? (run pathlessWorld ["analyze", "--help"]).out = none := by
  have hread : read .refused ["analyze", "--help"] = .error (.help (some .analyze)) := by
    decide +kernel
  have hrun : run pathlessWorld ["analyze", "--help"] =
      ⟨.code 0, help (some .analyze), [], []⟩ := by
    simp [run, pathlessWorld, hread]
  rw [hrun]
  obtain ⟨rest, hhelp⟩ := exists_help_eq (some .analyze)
  refine ⟨rfl, rfl, ?_, parse?_help _⟩
  simp [hhelp]

end CodeAtlas.Command
