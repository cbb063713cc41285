import ClassGraph.Proofs.JsonLine
import ClassGraph.Proofs.Lines
import ClassGraph.Proofs.Word
import ClassGraph.Service.Session
import Mathlib.Data.List.Forall2

/-!
# Sessions answer line by line

A client sends lines and has to know which answer belongs to which of them. It can count: **there is
one answer for each line that is not blank, in order, up to the first line that asks to stop**
(`session_answers_line_by_line`). Two things could break the count. An answer could be missing, or
come from something other than its line; but each is the answer that the line gets alone. And an
answer could break into two lines, at a newline in a name or in a message; but each is one line of
JSON, so the answers are found again in what the client receives.

The one thing that ends a session early is a count that does not fit into 64 bits.
-/

set_option autoImplicit false

namespace ClassGraph.Session

/-! ## Lines -/

/-- Is there anything on the line but blanks? -/
def needsAnswer (line : String) : Bool := !(Text.trim line).isEmpty

/-- Does the line ask the session to stop? -/
def asksToStop (line : String) : Bool :=
  match Request.parse (Text.trim line) with
  | .ok request => request.command = "SHUTDOWN"
  | .error _ => false

/-- The lines up to the first that asks to stop, with it. -/
def heard (lines : List String) : List String := lines.take (lines.findIdx asksToStop + 1)

/-- Some lines as they are sent, each ended by a newline. -/
def sent : List String → String
  | [] => ""
  | line :: rest => line ++ "\n" ++ sent rest

theorem heard_cons_of_asks {line : String} (h : asksToStop line = true) (rest : List String) :
    heard (line :: rest) = [line] := by
  simp [heard, List.findIdx_cons, h]

theorem heard_cons_of_not_asks {line : String} (h : asksToStop line = false) (rest : List String) :
    heard (line :: rest) = line :: heard rest := by
  simp [heard, List.findIdx_cons, h]

theorem trim_of_needsAnswer {line : String} (h : needsAnswer line = true) :
    ¬ (Text.trim line).isEmpty = true := by
  simpa [needsAnswer] using h

theorem asksToStop_of_error {line : String} {e : Json.Error}
    (h : Request.parse (Text.trim line) = .error e) : asksToStop line = false := by
  unfold asksToStop
  rw [h]

theorem asksToStop_of_ok {line : String} {request : Request}
    (h : Request.parse (Text.trim line) = .ok request) :
    asksToStop line = decide (request.command = "SHUTDOWN") := by
  unfold asksToStop
  rw [h]

/-- A blank line is not a request. -/
theorem parse_of_blank {line : String} (h : needsAnswer line = false) :
    ∃ e, Request.parse (Text.trim line) = .error e := by
  have hempty : Text.trim line = "" := by simpa [needsAnswer] using h
  have hfails : (Request.parse "").isOk = false := by decide +kernel
  cases hparse : Request.parse "" with
  | ok request =>
    rw [hparse] at hfails
    cases hfails
  | error e => exact ⟨e, hempty ▸ hparse⟩

theorem asksToStop_of_blank {line : String} (h : needsAnswer line = false) :
    asksToStop line = false := by
  obtain ⟨e, hparse⟩ := parse_of_blank h
  exact asksToStop_of_error hparse

/-- Lines without newlines are received as they were sent, and the last of them is ended. -/
theorem received_sent {lines : List String} (h : ∀ line ∈ lines, '\n' ∉ line.toList) :
    received (sent lines) = lines ++ [""] := by
  induction lines with
  | nil => rfl
  | cons line rest ih =>
    have hchars : (sent (line :: rest)).toList = line.toList ++ '\n' :: (sent rest).toList := by
      simp [sent]
    rw [received, hchars, Text.splitAt_append (h line List.mem_cons_self), List.map_cons,
      String.ofList_toList]
    exact congrArg (line :: ·) (ih fun l hl => h l (List.mem_cons_of_mem line hl))

/-! ## Answers -/

/-- The object that answers with data. -/
def dataObject (data : Json) : Json := .obj [("data", data), ("status", .str "success")]

/-- The object that answers with a message. -/
def errorObject (message : String) : Json := .obj [("message", .str message), ("status", .str "error")]

theorem success_eq (data : Json) : success data = (dataObject data.sorted).compact := by
  have horder : "data" < "status" := by decide
  simp only [success, dataObject, Json.sorted, Json.sortedMembers, Json.insertMember]
  rw [if_pos horder]

theorem refuse_eq (message : String) : refuse message = (errorObject message).compact := by
  have horder : "message" < "status" := by decide
  simp only [refuse, errorObject, Json.sorted, Json.sortedMembers, Json.insertMember]
  rw [if_pos horder]

section

variable [Rust.Complaints] (fs : FileSystem) (config : Config)

/-- The line asks for an analysis that does not fit. -/
def Overflows (line : String) : Prop :=
  ∃ request o, Request.parse (Text.trim line) = .ok request ∧
    answer fs config request = .error (.overflow o)

/-- What a line is answered with: data, or the reason why there are none. -/
inductive Answers (line : String) : Json → Prop
  | data {request : Request} {data : Json} (hparse : Request.parse (Text.trim line) = .ok request)
      (hanswer : answer fs config request = .ok data) : Answers line (dataObject data.sorted)
  | refused {request : Request} {r : Refusal}
      (hparse : Request.parse (Text.trim line) = .ok request)
      (hanswer : answer fs config request = .error r) : Answers line (errorObject r.message)
  | malformed {e : Json.Error} (hparse : Request.parse (Text.trim line) = .error e) :
      Answers line (errorObject (Refusal.notARequest e).message)

section

variable {fs config}

theorem answer_of_coupling {request : Request} {p : CouplingParams}
    (hcommand : request.command = "COUPLING")
    (hparams : params request CouplingParams.decode = .ok p) :
    answer fs config request = coupling fs config p := by
  unfold answer
  rw [hcommand, if_neg (by decide), if_neg (by decide), if_pos rfl, hparams]
  rfl

theorem answer_of_analyze {request : Request} {p : AnalyzeParams}
    (hcommand : request.command = "ANALYZE")
    (hparams : params request AnalyzeParams.decode = .ok p) :
    answer fs config request = analyze fs config p := by
  unfold answer
  rw [hcommand, if_neg (by decide), if_pos rfl, hparams]
  rfl

/-- A project is read as soon as its files are loaded. -/
theorem units_of_files {path : String} {t : FileTree} {sources : List SourceFile}
    (hfind : fs.find (PathName.ofText path) = .ok t) (hfiles : files fs config path t = .ok sources) :
    units fs config path = .ok (unitsOf .byExtension sources) := by
  unfold units
  simp only [hfind, hfiles]
  rfl

/-- A request for a report gets it as soon as the project is read and nothing overflows. -/
theorem analyze_of_units {p : AnalyzeParams} {us : List SourceUnit} {r : Report}
    (hunits : units fs config p.path = .ok us)
    (hreport : Report.ofUnits us
      { coupling := p.coupling.getD config.options.coupling
        threshold := p.threshold.getD config.options.threshold
        scope := (p.className.map Scope.only).getD config.options.scope } = .ok r) :
    analyze fs config p = .ok r.toJson := by
  unfold analyze report
  simp only [hunits, bind, Except.bind, hreport]
  rfl

variable {line : String}

theorem reply_of_blank (h : needsAnswer line = false) : reply fs config line = .silent := by
  have hempty : (Text.trim line).isEmpty = true := by simpa [needsAnswer] using h
  rw [reply, if_pos hempty]

variable (hneeds : needsAnswer line = true)
include hneeds

theorem reply_of_malformed {e : Json.Error} (hparse : Request.parse (Text.trim line) = .error e) :
    reply fs config line = .line (refuse (Refusal.notARequest e).message) := by
  rw [reply, if_neg (trim_of_needsAnswer hneeds)]
  simp only [hparse]

variable {request : Request} (hparse : Request.parse (Text.trim line) = .ok request)
include hparse

theorem reply_of_none (h : respond? (answer fs config request) = none) :
    reply fs config line = .broken := by
  rw [reply, if_neg (trim_of_needsAnswer hneeds)]
  simp only [hparse, h]

theorem reply_of_some {text : String} (h : respond? (answer fs config request) = some text) :
    reply fs config line = if asksToStop line then .last text else .line text := by
  rw [reply, if_neg (trim_of_needsAnswer hneeds)]
  simp only [hparse, h, asksToStop_of_ok hparse, decide_eq_true_eq]

end

/-- **What a session does with a line**: nothing, if it is blank; it breaks off, if a count does not
    fit; else it answers, and stops if it is asked to. -/
theorem reply_cases (line : String) :
    (needsAnswer line = false ∧ reply fs config line = .silent) ∨
    (needsAnswer line = true ∧ Overflows fs config line ∧ reply fs config line = .broken) ∨
    (needsAnswer line = true ∧ ∃ v, Answers fs config line v ∧
      reply fs config line = if asksToStop line then .last v.compact else .line v.compact) := by
  cases hneeds : needsAnswer line with
  | false => exact .inl ⟨rfl, reply_of_blank hneeds⟩
  | true =>
    refine .inr ?_
    cases hparse : Request.parse (Text.trim line) with
    | error e =>
      refine .inr ⟨rfl, _, .malformed hparse, ?_⟩
      rw [reply_of_malformed hneeds hparse, refuse_eq, asksToStop_of_error hparse,
        if_neg (by decide)]
    | ok request =>
      cases hanswer : answer fs config request with
      | ok data =>
        refine .inr ⟨rfl, _, .data hparse hanswer, reply_of_some hneeds hparse ?_⟩
        rw [hanswer, respond?, success_eq]
      | error r =>
        by_cases hover : ∃ o, r = .overflow o
        · obtain ⟨o, rfl⟩ := hover
          refine .inl ⟨rfl, ⟨request, o, hparse, hanswer⟩, reply_of_none hneeds hparse ?_⟩
          rw [hanswer, respond?]
        · have hrespond : respond? (.error r) = some (refuse r.message) := by
            cases r with
            | overflow o => exact absurd ⟨o, rfl⟩ hover
            | _ => rfl
          refine .inr ⟨rfl, _, .refused hparse hanswer, reply_of_some hneeds hparse ?_⟩
          rw [hanswer, hrespond, refuse_eq]

/-- **What the client gets for a line.** -/
structure Response (line text : String) : Prop where
  /-- The line gets the same answer alone. -/
  alone : replies fs config [line] = [text]
  /-- The answer is the text of an object with data or with a message. If it holds no double, as no
      message does, it is read back as it was. -/
  object : ∃ v, Answers fs config line v ∧ text = v.compact ∧
    (v.Fits Json.Read.maxDepth → Json.parse text = .ok v)
  json : Json.IsJson text
  oneLine : '\n' ∉ text.toList

variable {fs config}

theorem response_of_reply {line : String} {v : Json} (hanswers : Answers fs config line v)
    (hreply : reply fs config line = .line v.compact ∨ reply fs config line = .last v.compact) :
    Response fs config line v.compact where
  alone := by
    rcases hreply with h | h
    · rw [replies, h]
      rfl
    · rw [replies, h]
  object := ⟨v, hanswers, rfl, fun hfits => Json.parse_of_hasText (Json.hasText_compact hfits)⟩
  json := Json.isJson_compact v
  oneLine := Json.newline_notMem_compact v

/-- **Lines are answered one by one**, as long as no count overflows. -/
theorem replies_forall₂ {lines : List String}
    (h : ∀ line ∈ heard lines, ¬ Overflows fs config line) :
    List.Forall₂ (Response fs config) ((heard lines).filter needsAnswer)
      (replies fs config lines) := by
  induction lines with
  | nil => exact .nil
  | cons line rest ih =>
    rcases reply_cases fs config line with
      ⟨hblank, hreply⟩ | ⟨-, hover, -⟩ | ⟨hneeds, v, hanswers, hreply⟩
    · -- A blank line is heard and gets no answer.
      rw [heard_cons_of_not_asks (asksToStop_of_blank hblank)] at h ⊢
      rw [List.filter_cons_of_neg (by simp [hblank]), replies, hreply]
      exact ih fun l hl => h l (List.mem_cons_of_mem line hl)
    · -- The first line is heard in any case.
      have hheard : line ∈ heard (line :: rest) := by simp [heard]
      exact absurd hover (h line hheard)
    · cases hstop : asksToStop line with
      | true =>
        rw [hstop, if_pos rfl] at hreply
        rw [heard_cons_of_asks hstop, List.filter_cons_of_pos hneeds, List.filter_nil, replies, hreply]
        exact .cons (response_of_reply hanswers (.inr hreply)) .nil
      | false =>
        rw [hstop, if_neg (by decide)] at hreply
        rw [heard_cons_of_not_asks hstop] at h ⊢
        rw [List.filter_cons_of_pos hneeds, replies, hreply]
        exact .cons (response_of_reply hanswers (.inl hreply))
          (ih fun l hl => h l (List.mem_cons_of_mem line hl))

/-- What is left after the last newline is blank. -/
theorem replies_concat_blank (lines : List String) :
    replies fs config (lines ++ [""]) = replies fs config lines := by
  induction lines with
  | nil =>
    have hblank : reply fs config "" = .silent := reply_of_blank (by decide)
    simp only [List.nil_append, replies, hblank]
  | cons line rest ih => rw [List.cons_append, replies, replies, ih]

/-- A line that overflows breaks the session off. -/
theorem reply_of_overflows {line : String} (h : Overflows fs config line) :
    reply fs config line = .broken := by
  obtain ⟨request, o, hparse, hanswer⟩ := h
  cases hneeds : needsAnswer line with
  | false =>
    obtain ⟨e, hfails⟩ := parse_of_blank hneeds
    rw [hparse] at hfails
    cases hfails
  | true =>
    refine reply_of_none hneeds hparse ?_
    rw [hanswer, respond?]

end

/-! ## Sessions -/

/-- **A session answers line by line**: each line that is not blank, up to the first that asks to
    stop, gets one answer, the one that it would get alone, and the answer is one line of JSON. So the
    answers are found again in the text that is sent back, and it makes no difference that the lines
    came in one text. -/
theorem session_answers_line_by_line [Rust.Complaints] (fs : FileSystem) (config : Config)
    (lines : List String) (h : ∀ line ∈ heard lines, ¬ Overflows fs config line) :
    List.Forall₂ (Response fs config) ((heard lines).filter needsAnswer)
      (replies fs config lines) ∧
    received (sent (replies fs config lines)) = replies fs config lines ++ [""] ∧
    ((∀ line ∈ lines, '\n' ∉ line.toList) →
      replies fs config (received (sent lines)) = replies fs config lines) := by
  have hanswers := replies_forall₂ h
  refine ⟨hanswers, received_sent ?_, fun hlines => ?_⟩
  · have hboth := hanswers.flip.imp fun _ _ hr => And.intro hr.oneLine hr
    exact ((List.forall₂_and_left _ _).mp hboth).1
  · rw [received_sent hlines, replies_concat_blank]

/-- A workspace of one crate. -/
def oneCrate : Workspace := ⟨["app"], [⟨"app", "my-app", [⟨["lib"], "/src/lib.rs"⟩]⟩]⟩

/-- The only file of the crate, with a call from `A` to `B`. -/
def crateFile : SourceFile := ⟨"my_app", "/src/lib.rs", "impl A { fn f(b: B) { b.g(); } }"⟩

/-- The workspace, beside a manifest on which the package manager fails with an error of two lines. -/
def twoManifests : FileSystem where
  root := .folder
    [(manifestName, .file []),
     (PathName.ofText "old", .folder [(manifestName, .file [])]),
     (PathName.ofText "src", .folder
       [(PathName.ofText "lib.rs", .file (Text.Utf8.encode crateFile.content))])]
  here := []
  workspace := fun manifest =>
    if manifest = "Cargo.toml" then .ok oneCrate
    else .error "error: failed to parse manifest\n  no targets"

/-- A request for the report on the workspace. -/
def workspaceLine : String :=
  "\x7b\"command\":\"ANALYZE\",\"params\":\x7b\"path\":\"Cargo.toml\"\x7d\x7d"

/-- A blank line, no request, and a request on which the package manager fails; then the one for the
    report; then one without parameters, one that ends the session, and one that comes too late. -/
def mixedLines : List String :=
  ["  ", "PING", "\x7b\"command\":\"ANALYZE\",\"params\":\x7b\"path\":\"old/Cargo.toml\"\x7d\x7d",
   workspaceLine, "\x7b\"command\":\"ANALYZE\"\x7d", " \x7b\"command\":\"SHUTDOWN\"\x7d\r",
   "\x7b\"command\":\"PING\"\x7d"]

section

attribute [local instance] Rust.plainComplaints

theorem units_twoManifests {config : Config} (h : config.excluded = []) :
    units twoManifests config "Cargo.toml" = .ok (unitsOf .byExtension [crateFile]) := by
  have hname : PathName.fileName? (PathName.ofText "Cargo.toml") = some manifestName := by
    decide +kernel
  have hfound : oneCrate.members.flatMap (Loader.memberFiles twoManifests [] oneCrate)
      = [crateFile] := by
    decide +kernel
  refine units_of_files (t := .file []) rfl ?_
  unfold files
  rw [if_neg (by decide), if_pos hname, h]
  change Except.ok (Loader.inOrder _) = _
  rw [hfound, Loader.inOrder, List.mergeSort_singleton]
  rfl

theorem reply_workspaceLine :
    ∃ r : Report, reply twoManifests .default workspaceLine = .line (success r.toJson) := by
  have hneeds : needsAnswer workspaceLine = true := by decide +kernel
  have hrequest : (Request.parse (Text.trim workspaceLine)).toOption.map
      (fun request => (request.command, (params request AnalyzeParams.decode).toOption))
        = some ("ANALYZE", some ⟨"Cargo.toml", none, none, none⟩) := by
    decide +kernel
  obtain ⟨r, hr⟩ : ∃ r, Report.ofUnits (unitsOf .byExtension [crateFile]) ⟨true, 2, .project⟩
      = .ok r := exists_eq_ok_of_isOk (by decide +kernel)
  have hanalyze : analyze twoManifests .default ⟨"Cargo.toml", none, none, none⟩ = .ok r.toJson :=
    analyze_of_units (units_twoManifests rfl) hr
  obtain ⟨request, hparse, hdecoded⟩ := Option.map_eq_some_iff.mp hrequest
  obtain ⟨hcommand, hparams⟩ := Prod.mk.inj hdecoded
  have hanswer : respond? (answer twoManifests .default request) = some (success r.toJson) := by
    rw [answer_of_analyze hcommand (eq_ok_of_toOption hparams), hanalyze, respond?]
  have hgoes : asksToStop workspaceLine = false := by
    rw [asksToStop_of_ok (eq_ok_of_toOption hparse), hcommand]
    decide
  refine ⟨r, ?_⟩
  rw [reply_of_some hneeds (eq_ok_of_toOption hparse) hanswer, hgoes, if_neg (by decide)]

/-- The request between those that fail gets its report, and each line its answer. -/
theorem session_answers_mixedLines :
    (∀ line ∈ heard mixedLines, ¬ Overflows twoManifests .default line) ∧
    (∃ r : Report, reply twoManifests .default workspaceLine = .line (success r.toJson)) ∧
    (replies twoManifests .default mixedLines).length = 5 ∧
    replies twoManifests .default (received (sent mixedLines))
      = replies twoManifests .default mixedLines := by
  obtain ⟨r, hworkspace⟩ := reply_workspaceLine
  have hheard : ∀ line ∈ heard mixedLines, line = workspaceLine ∨
      line ∈ (heard mixedLines).filter (· ≠ workspaceLine) := by
    intro line hline
    by_cases heq : line = workspaceLine
    · exact .inl heq
    · exact .inr (List.mem_filter.mpr ⟨hline, decide_eq_true heq⟩)
  have hothers : ∀ line ∈ (heard mixedLines).filter (· ≠ workspaceLine),
      reply twoManifests .default line ≠ .broken := by
    decide +kernel
  have hfits : ∀ line ∈ heard mixedLines, ¬ Overflows twoManifests .default line := by
    intro line hline hover
    have hbroken := reply_of_overflows hover
    rcases hheard line hline with rfl | hline
    · rw [hworkspace] at hbroken
      cases hbroken
    · exact hothers line hline hbroken
  have hnewlines : ∀ line ∈ mixedLines, '\n' ∉ line.toList := by decide +kernel
  have hcount : ((heard mixedLines).filter needsAnswer).length = 5 := by decide +kernel
  obtain ⟨hanswers, -, hsent⟩ := session_answers_line_by_line twoManifests .default mixedLines hfits
  exact ⟨hfits, ⟨r, hworkspace⟩, hanswers.length_eq ▸ hcount, hsent hnewlines⟩

end

end ClassGraph.Session
