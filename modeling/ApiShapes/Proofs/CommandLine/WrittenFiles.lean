import ApiShapes.CommandLine.Run
import ApiShapes.Proofs.Document.StepResults
import ApiShapes.Proofs.Files.Writing
import Mathlib.Tactic

/-!
# Written files

A run writes last, so what stops a run before that stops it before any file has changed: what a
session keeps is kept by what it is made of, down to the notes and the lines it prints.  A run that
succeeds has written the file that its arguments ask for and changed no other one, unless it was
asked for help.  Of the runs that fail two kinds change that file: those whose text no file can hold,
which leave it empty, and those that cannot print that they have saved it.
-/

namespace ApiShapes.CommandLine

variable {α β : Type}

/-- How a session ends that starts with some effects, and what it has done by then. -/
def ending (x : Session α) (c : Console) (e : Effects) : Except Stop α × Effects :=
  (x.run c).run.run e

/-- A session leaves the files as they are, however it ends and whatever it prints on.  A value that
it ends with has a property, and it stops without a failure only where help is asked for. -/
structure Keeps (x : Session α) (help : Prop) (post : α → Prop) : Prop where
  files (c : Console) (e : Effects) : (ending x c e).2.files = e.files
  value (c : Console) (e : Effects) (a : α) (h : (ending x c e).1 = .ok a) : post a
  stop (c : Console) (e : Effects) (reason : Stop) (h : (ending x c e).1 = .error reason) :
    reason.exitCode = 0 → help

/-! ## What sessions are made of -/

section

variable {help : Prop} {post : α → Prop} {next : β → Prop} {c : Console} {e e' : Effects}
  {reason : Stop}

theorem ending_bind_of_ok {x : Session α} {f : α → Session β} {a : α}
    (h : ending x c e = (.ok a, e')) : ending (x >>= f) c e = ending (f a) c e' := by
  unfold ending at h ⊢
  rw [ReaderT.run_bind, ExceptT.run_bind, StateT.run_bind, h]
  rfl

theorem ending_bind_of_error {x : Session α} {f : α → Session β}
    (h : ending x c e = (.error reason, e')) : ending (x >>= f) c e = (.error reason, e') := by
  unfold ending at h ⊢
  rw [ReaderT.run_bind, ExceptT.run_bind, StateT.run_bind, h]
  rfl

theorem Keeps.pure {a : α} (h : post a) : Keeps (Pure.pure a) help post where
  files _ _ := rfl
  value c e b hb := by
    cases hb
    exact h
  stop c e reason hreason := by cases hreason

theorem Keeps.stopFor (h : reason.exitCode = 0 → help) :
    Keeps (CommandLine.stop reason : Session α) help post where
  files _ _ := rfl
  value c e a ha := by cases ha
  stop c e other hother := by
    cases hother
    exact h

theorem Keeps.fail (h : reason.exitCode ≠ 0) :
    Keeps (CommandLine.stop reason : Session α) help post :=
  .stopFor fun hcode => absurd hcode h

theorem Keeps.bind {x : Session α} {f : α → Session β} (hx : Keeps x help post)
    (hf : ∀ a, post a → Keeps (f a) help next) : Keeps (x >>= f) help next := by
  -- The end of the first part decides whether there is a second one.
  have hrun : ∀ c e, (∃ reason e', ending (x >>= f) c e = (.error reason, e') ∧
        e'.files = e.files ∧ (reason.exitCode = 0 → help)) ∨
      ∃ a e', ending (x >>= f) c e = ending (f a) c e' ∧ e'.files = e.files ∧ post a := by
    intro c e
    have hfiles := hx.files c e
    have hpost := hx.value c e
    have hstop := hx.stop c e
    cases h : ending x c e with
    | mk result e' =>
        rw [h] at hfiles hpost hstop
        cases result with
        | error reason =>
            exact Or.inl ⟨reason, e', ending_bind_of_error h, hfiles, hstop reason rfl⟩
        | ok a => exact Or.inr ⟨a, e', ending_bind_of_ok h, hfiles, hpost a rfl⟩
  constructor
  · intro c e
    rcases hrun c e with ⟨reason, e', h, hfiles, -⟩ | ⟨a, e', h, hfiles, ha⟩
    · rw [h]
      exact hfiles
    · rw [h]
      exact ((hf a ha).files c e').trans hfiles
  · intro c e b hb
    rcases hrun c e with ⟨reason, e', h, -, -⟩ | ⟨a, e', h, -, ha⟩
    · rw [h] at hb
      cases hb
    · rw [h] at hb
      exact (hf a ha).value c e' b hb
  · intro c e other hother
    rcases hrun c e with ⟨reason, e', h, -, hhelp⟩ | ⟨a, e', h, -, ha⟩
    · rw [h] at hother
      cases hother
      exact hhelp
    · rw [h] at hother
      exact (hf a ha).stop c e' other hother

/-- Whatever the value of a session, what follows it keeps the files. -/
theorem Keeps.then {x : Session α} {f : α → Session β} (hx : Keeps x help post)
    (hf : ∀ a, Keeps (f a) help next) : Keeps (x >>= f) help next :=
  hx.bind fun a _ => hf a

theorem Keeps.forIn {values : List β} {body : β → Session PUnit}
    (h : ∀ b ∈ values, Keeps (body b) help fun _ => True) :
    Keeps (forIn values PUnit.unit fun b _ => body b >>= fun _ => Pure.pure (.yield PUnit.unit))
      help fun _ => True := by
  induction values with
  | nil => exact .pure trivial
  | cons b values ih =>
      rw [List.forIn_cons, bind_assoc]
      refine (h b List.mem_cons_self).then fun _ => ?_
      rw [pure_bind]
      exact ih fun c hc => h c (List.mem_cons_of_mem _ hc)

theorem Keeps.forget {x : Session α} (hx : Keeps x help post) : Keeps x help fun _ => True :=
  { hx with value := fun _ _ _ _ => trivial }

theorem exitCode_aborted (abort : Abort) : (Stop.aborted abort).exitCode ≠ 0 :=
  Nat.one_ne_zero

theorem exitCode_failed (message : String) : (Stop.failed message).exitCode ≠ 0 :=
  Nat.one_ne_zero

theorem exitCode_usage (command : Option Command) (fault : UsageFault) :
    (Stop.usage command fault).exitCode ≠ 0 :=
  Nat.succ_ne_zero 1

/-- A session that only changes what has been printed keeps the files. -/
theorem Keeps.modify {f : Effects → Effects} (h : ∀ e, (f e).files = e.files) :
    Keeps (modify f : Session Unit) help fun _ => True where
  files _ := h
  value _ _ _ _ := trivial
  stop c e reason hreason := by cases hreason

theorem Keeps.console : Keeps (read : Session Console) help fun _ => True where
  files _ _ := rfl
  value _ _ _ _ := trivial
  stop c e reason hreason := by cases hreason

theorem Keeps.effects : Keeps (get : Session Effects) help fun _ => True where
  files _ _ := rfl
  value _ _ _ _ := trivial
  stop c e reason hreason := by cases hreason

theorem Keeps.currentFiles : Keeps currentFiles help fun _ => True :=
  Keeps.effects.then fun _ => .pure trivial

theorem Keeps.echo (line : String) : Keeps (echo line) help fun _ => True := by
  unfold CommandLine.echo
  refine Keeps.console.then fun c => Keeps.effects.then fun e => ?_
  split
  · exact .modify fun _ => rfl
  · exact .fail (exitCode_aborted _)

theorem Keeps.note (line : String) : Keeps (note line) help fun _ => True := by
  unfold CommandLine.note
  refine Keeps.console.then fun c => Keeps.effects.then fun e => ?_
  split
  · exact .modify fun _ => rfl
  · exact .fail (exitCode_aborted _)

theorem Keeps.log (threshold : Nat) (severity : Severity) (logger : Logger) (message : String) :
    Keeps (log threshold severity logger message) help fun _ => True := by
  unfold CommandLine.log
  refine Keeps.console.then fun c => Keeps.effects.then fun e => ?_
  split
  · exact .modify fun _ => rfl
  · exact .pure trivial

theorem Keeps.stopIf {condition : Bool} {reason : Stop}
    (h : condition = true → reason.exitCode = 0 → help) :
    Keeps (stopIf condition reason) help fun _ => True := by
  unfold CommandLine.stopIf
  split
  · next hcondition => exact .stopFor (h hcondition)
  · exact .pure trivial

theorem Keeps.orStop {ε : Type} {reason : ε → Stop} (h : ∀ e, (reason e).exitCode ≠ 0)
    (result : Except ε α) : Keeps (orStop reason result) help fun a => result = .ok a := by
  cases result with
  | ok a => exact .pure rfl
  | error e => exact .fail (h e)

theorem Keeps.orAbort (c : Checked α) : Keeps (orAbort c) help fun _ => True := by
  cases c with
  | valid a => exact .pure trivial
  | invalid faults => exact .fail (exitCode_aborted _)

end

/-! ## What comes before writing -/

section

variable {help : Prop} (w : World) (threshold : Nat) (command : Command) (request : Request)

theorem keeps_settings : Keeps w.settings help fun _ => True := by
  unfold World.settings
  refine Keeps.currentFiles.then fun files => ?_
  dsimp only
  split
  · exact .pure trivial
  · exact .fail (exitCode_aborted _)

theorem keeps_reportResult (logger : Logger) (result : Conversion.Result α) :
    Keeps (reportResult threshold logger result) help fun _ => True := by
  unfold reportResult
  refine (Keeps.forIn fun _ _ => .log ..).then fun _ => ?_
  refine (Keeps.forIn fun _ _ => .log ..).then fun _ => ?_
  refine (Keeps.forIn fun _ _ => .note _).then fun _ => ?_
  refine (Keeps.forIn fun _ _ => .note _).then fun _ => ?_
  exact .stopIf fun _ hcode => absurd hcode (exitCode_failed _)

theorem keeps_loadSource (path : Path) : Keeps (loadSource threshold path) help fun _ => True := by
  unfold loadSource
  refine Keeps.currentFiles.then fun files => ?_
  refine (Keeps.orStop (fun _ => exitCode_aborted _) _).then fun source => ?_
  refine (Keeps.forIn fun _ _ => .log ..).then fun _ => ?_
  exact .orAbort _

theorem keeps_inputRepresentation : Keeps (inputRepresentation request) help fun _ => True := by
  unfold inputRepresentation
  split
  · exact .pure trivial
  · refine Keeps.currentFiles.then fun files => ?_
    exact (Keeps.orStop (fun _ => exitCode_aborted _) _).forget

theorem exitCode_loadStop (fault : LoadFault DecodeFault) : (loadStop fault).exitCode ≠ 0 := by
  unfold loadStop
  split
  · exact exitCode_failed _
  · exact exitCode_aborted _

theorem keeps_loadDefinition (options : Conversion.Options) :
    Keeps (loadDefinition threshold command request options) help fun _ => True := by
  unfold loadDefinition
  refine (keeps_inputRepresentation request).then fun representation => ?_
  cases representation with
  | openApi => exact .fail (exitCode_usage _ _)
  | typeSpec =>
      refine (keeps_loadSource ..).then fun definition => ?_
      exact (Keeps.echo _).then fun _ => .pure trivial
  | jsonApi =>
      refine Keeps.currentFiles.then fun files => ?_
      refine (Keeps.orStop exitCode_loadStop _).then fun document => ?_
      refine (Keeps.orAbort _).then fun result => ?_
      refine (keeps_reportResult ..).then fun _ => ?_
      exact (Keeps.echo _).then fun _ => .pure trivial

theorem keeps_readDefinition :
    Keeps (readDefinition w threshold command request) help fun _ => True := by
  unfold readDefinition
  refine (Keeps.echo _).then fun _ => ?_
  refine (keeps_settings w).then fun settings => ?_
  exact (keeps_loadDefinition ..).then fun definition => .pure trivial

theorem keeps_produce : Keeps (produce w threshold command request) help fun _ => True := by
  unfold produce
  cases command with
  | toJsonApi =>
      refine (Keeps.echo _).then fun _ => ?_
      refine (keeps_loadSource ..).then fun definition => ?_
      refine (Keeps.orAbort _).then fun result => ?_
      refine (keeps_reportResult ..).then fun _ => ?_
      exact (Keeps.echo _).then fun _ => .pure trivial
  | toTypeSpec => exact (keeps_readDefinition ..).then fun _ => .pure trivial
  | toOpenApi =>
      refine (keeps_readDefinition ..).then fun read => ?_
      exact (Keeps.forIn fun _ _ => .note _).then fun _ => .pure trivial

theorem keeps_logThreshold (verbose : Bool) :
    Keeps (logThreshold w verbose) help fun _ => True := by
  unfold logThreshold
  split
  · exact .pure trivial
  · refine (keeps_settings w).then fun settings => ?_
    dsimp only
    split
    · exact .pure trivial
    · exact .fail (exitCode_aborted _)

end

/-! ## What arguments ask for -/

/-- The arguments of the command that a command line names. -/
def commandArguments? (arguments : List String) : Option Arguments := do
  let general ← (readArguments generalOptions false arguments).toOption
  let name ← general.others.head?
  let command ← Command.all.find? (·.name == name)
  (readArguments command.options true general.others.tail).toOption

/-- The path of the last output option that a command is given. -/
def outputPath? (arguments : List String) : Option Path :=
  ((commandArguments? arguments).bind (·.value? .output)).map .ofText

example :
    outputPath? ["-v", "to-jsonapi", "-o", "a.json", "shop.tsp", "--output=out/b.yml"] =
      some ⟨false, ["out", "b.yml"]⟩ := by
  decide

/-- An empty command line asks for help, and so does the option of help before the command or behind
it. -/
def AsksForHelp (arguments : List String) : Prop :=
  arguments = [] ∨
    (∃ general, readArguments generalOptions false arguments = .ok general ∧
      general.has .help = true) ∨
    ∃ given, commandArguments? arguments = some given ∧ given.has .help = true

theorem eq_some_of_required {fault : UsageFault} {given : Option α} {a : α}
    (h : required fault given = .ok a) : given = some a := by
  cases given with
  | none => cases h
  | some b =>
      cases h
      rfl

theorem output_ofArguments {files : Files} {a : Arguments} {request : Request}
    (h : Request.ofArguments files a = .ok request) :
    (a.value? .output).map Path.ofText = some request.output := by
  unfold Request.ofArguments at h
  obtain ⟨format, -, h⟩ := bind_eq_ok_iff.1 h
  obtain ⟨input, -, h⟩ := bind_eq_ok_iff.1 h
  obtain ⟨-, -, h⟩ := bind_eq_ok_iff.1 h
  obtain ⟨output, houtput, h⟩ := bind_eq_ok_iff.1 h
  obtain ⟨-, -, h⟩ := bind_eq_ok_iff.1 h
  cases h
  rw [eq_some_of_required houtput, Option.map_some]

theorem keeps_readRequest (w : World) (arguments : List String) :
    Keeps (readRequest w arguments) (AsksForHelp arguments) fun read =>
      outputPath? arguments = some read.2.2.output := by
  unfold readRequest
  refine (Keeps.orStop (fun _ => exitCode_usage _ _) _).bind ?_
  intro general hgeneral
  have hhelp : (arguments.isEmpty || general.has .help) = true → AsksForHelp arguments := by
    intro h
    rcases Bool.or_eq_true_iff.1 h with hempty | hhas
    · exact Or.inl (List.isEmpty_iff.1 hempty)
    · exact Or.inr (Or.inl ⟨general, hgeneral, hhas⟩)
  refine (Keeps.stopIf fun h _ => hhelp h).then fun _ => ?_
  cases hothers : general.others with
  | nil => exact .fail (exitCode_usage _ _)
  | cons name rest =>
      dsimp only
      cases hcommand : Command.all.find? (·.name == name) with
      | none => exact .fail (exitCode_usage _ _)
      | some command =>
          refine (keeps_logThreshold ..).then fun threshold => ?_
          refine (Keeps.orStop (fun _ => exitCode_usage _ _) _).bind ?_
          intro given hgiven
          have hcommandArguments : commandArguments? arguments = some given := by
            unfold commandArguments?
            rw [hgeneral]
            simp only [Except.toOption, hothers, List.head?_cons, hcommand, List.tail_cons, hgiven,
              Option.bind_eq_bind, Option.bind_some]
          refine (Keeps.stopIf fun h _ => Or.inr (Or.inr ⟨given, hcommandArguments, h⟩)).then
            fun _ => ?_
          refine Keeps.currentFiles.then fun files => ?_
          refine (Keeps.orStop (fun _ => exitCode_usage _ _) _).bind ?_
          intro request hrequest
          refine .pure ?_
          rw [outputPath?, hcommandArguments, Option.bind_some]
          exact output_ofArguments hrequest

/-! ## Runs -/

theorem keeps_prepare (w : World) (arguments : List String) :
    Keeps (prepare w arguments) (AsksForHelp arguments) fun file =>
      outputPath? arguments = some file.1 := by
  unfold prepare
  refine (keeps_readRequest w arguments).bind ?_
  intro read houtput
  refine (keeps_produce ..).then fun text => ?_
  refine (Keeps.orStop (fun _ => exitCode_aborted _) _).then fun complaints => ?_
  refine (Keeps.forIn fun _ _ => .note _).then fun _ => ?_
  exact .pure houtput

theorem keeps_report (reason : Stop) : Keeps (report reason) help fun _ => True := by
  unfold report
  refine (Keeps.forIn fun _ _ => .echo _).then fun _ => ?_
  exact (Keeps.forIn fun _ _ => .note _).then fun _ => .pure trivial

theorem ending_reported (x : Session Unit) :
    ending (reported x) c e =
      match ending x c e with
      | (.ok (), e') => (.ok (), e')
      | (.error reason, e') => ending (report reason >>= fun _ => stop reason) c e' := by
  unfold ending reported
  simp only [tryCatch, tryCatchThe, MonadExceptOf.tryCatch, ReaderT.run, ExceptT.run,
    ExceptT.tryCatch, ExceptT.mk, StateT.run, bind, StateT.bind]
  rcases x c e with ⟨_ | _, e'⟩ <;> rfl

theorem ending_writeFile (path : Path) (text : String) :
    ending (writeFile path text) c e =
      ((e.files.write path text).1.mapError fun fault => .aborted (.write fault),
        { e with files := (e.files.write path text).2 }) := by
  have hfiles : ending currentFiles c e = (.ok e.files, e) := rfl
  refine (ending_bind_of_ok hfiles).trans ?_
  cases e.files.write path text with
  | mk result files => cases result <;> rfl

theorem ending_echo (line : String) :
    ending (echo line) c e =
      if c.takesOutput e.output line then (.ok (), { e with output := e.output ++ [line] })
      else (.error (.aborted (.unprintable line)), e) := by
  have hconsole : ending (read : Session Console) c e = (.ok c, e) := rfl
  have heffects : ending (get : Session Effects) c e = (.ok e, e) := rfl
  refine (ending_bind_of_ok hconsole).trans ((ending_bind_of_ok heffects).trans ?_)
  split <;> rfl

/-- How a session ends, and which files it leaves.  It stops before writing and leaves them as they
are; or the text to be written is none that a file can hold, and the file is left empty; or the file
is written, and the session ends, unless it cannot say so. -/
inductive Leaves (arguments : List String) (files : Files) : Except Stop Unit → Files → Prop where
  | untouched {reason : Stop} (help : reason.exitCode = 0 → AsksForHelp arguments) :
      Leaves arguments files (.error reason) files
  | emptied {path : Path} {text : String} (asked : outputPath? arguments = some path)
      (free : files.obstacle? path = none) (unencodable : Text.isEncodable text.toList = false) :
      Leaves arguments files (.error (.aborted (.write (.unencodable text)))) (files.put path "")
  | unsaid {path : Path} {text : String} (asked : outputPath? arguments = some path)
      (free : files.obstacle? path = none) (encodable : Text.isEncodable text.toList = true) :
      Leaves arguments files (.error (.aborted (.unprintable ("Saved " ++ path.text))))
        (files.put path text)
  | written {path : Path} {text : String} (asked : outputPath? arguments = some path) :
      Leaves arguments files (.ok ()) (files.put path text)

/-- What is left by writing the file that the arguments ask for, and by saying so. -/
theorem leaves_writing {arguments : List String} {path : Path} (text : String)
    (hasked : outputPath? arguments = some path) :
    Leaves arguments e.files
      (ending (writeFile path text >>= fun _ => echo ("Saved " ++ path.text)) c e).1
      (ending (writeFile path text >>= fun _ => echo ("Saved " ++ path.text)) c e).2.files := by
  have hwrite := ending_writeFile (c := c) (e := e) path text
  cases hfree : e.files.obstacle? path with
  | some fault =>
      rw [Files.write_of_obstacle hfree] at hwrite
      rw [ending_bind_of_error hwrite]
      exact .untouched fun hcode => absurd hcode (exitCode_aborted _)
  | none =>
      cases htext : Text.isEncodable text.toList with
      | false =>
          rw [Files.write_of_unencodable hfree htext] at hwrite
          rw [ending_bind_of_error hwrite]
          exact .emptied hasked hfree htext
      | true =>
          rw [Files.write_of_encodable hfree htext] at hwrite
          rw [ending_bind_of_ok hwrite, ending_echo]
          split
          · exact .written hasked
          · exact .unsaid hasked hfree htext

theorem leaves_session (w : World) (arguments : List String) :
    Leaves arguments e.files (ending (session w arguments) c e).1
      (ending (session w arguments) c e).2.files := by
  have hprepare := keeps_prepare w arguments
  have hfiles := hprepare.files c e
  have hasked := hprepare.value c e
  have hstop := hprepare.stop c e
  unfold session
  cases hend : ending (prepare w arguments) c e with
  | mk result e' =>
      rw [hend] at hfiles hasked hstop
      dsimp only at hfiles
      cases result with
      | error reason =>
          rw [ending_bind_of_error hend, hfiles]
          exact .untouched (hstop reason rfl)
      | ok file =>
          rw [ending_bind_of_ok hend, ← hfiles]
          exact leaves_writing file.2 (hasked file rfl)

/-- Telling why a session stopped changes nothing about the files; of what aborts it nothing is
told. -/
theorem leaves_reported {arguments : List String} {x : Session Unit}
    (h : Leaves arguments e.files (ending x c e).1 (ending x c e).2.files) :
    Leaves arguments e.files (ending (reported x) c e).1 (ending (reported x) c e).2.files := by
  rw [ending_reported]
  rcases hend : ending x c e with ⟨result, e'⟩
  rw [hend] at h
  dsimp only at h
  generalize hfiles : e'.files = files at h
  cases h with
  | @untouched reason help =>
      have hkeeps : Keeps (report reason >>= fun _ => stop reason : Session Unit)
          (AsksForHelp arguments) fun _ => False :=
        (keeps_report reason).then fun _ => .stopFor help
      have hsame := (hkeeps.files c e').trans hfiles
      have hvalue := hkeeps.value c e'
      have hstop := hkeeps.stop c e'
      dsimp only
      cases hreport : ending (report reason >>= fun _ => stop reason : Session Unit) c e' with
      | mk result e'' =>
          rw [hreport] at hsame hvalue hstop
          dsimp only at hsame
          cases result with
          | error other =>
              rw [hsame]
              exact .untouched (hstop other rfl)
          | ok done => exact (hvalue done rfl).elim
  | emptied asked free unencodable =>
      change Leaves arguments e.files (.error _) e'.files
      rw [hfiles]
      exact .emptied asked free unencodable
  | unsaid asked free encodable =>
      change Leaves arguments e.files (.error _) e'.files
      rw [hfiles]
      exact .unsaid asked free encodable
  | written asked =>
      dsimp only
      rw [hfiles]
      exact .written asked

/-- A run that fails changes no file, unless the file that its arguments ask for can be written and
the text is none that a file can hold, which leaves it empty, or the console does not take the line
that says so.  One that succeeds has written the file that its arguments ask for and changed no
other one, or it was asked for help and has changed none. -/
theorem run_writes (w : World) (arguments : List String) :
    ((run w arguments).exitCode ≠ 0 →
        (run w arguments).files = w.files ∨
          ∃ path text, outputPath? arguments = some path ∧ w.files.obstacle? path = none ∧
            (Text.isEncodable text.toList = false ∧
                (run w arguments).abort = some (.write (.unencodable text)) ∧
                (run w arguments).files = w.files.put path "" ∨
              Text.isEncodable text.toList = true ∧
                (run w arguments).abort = some (.unprintable ("Saved " ++ path.text)) ∧
                (run w arguments).files = w.files.put path text)) ∧
      ((run w arguments).exitCode = 0 →
        AsksForHelp arguments ∧ (run w arguments).files = w.files ∨
          ∃ path text, outputPath? arguments = some path ∧
            (run w arguments).files.get? path = some text ∧
            ∀ other, other ≠ path →
              (run w arguments).files.get? other = w.files.get? other) := by
  have hleaves : Leaves arguments w.files _ _ :=
    leaves_reported (leaves_session (c := w.console) (e := ⟨[], [], w.files⟩) w arguments)
  unfold ending at hleaves
  unfold run
  generalize ((reported (session w arguments)).run w.console).run.run ⟨[], [], w.files⟩ = ended
    at hleaves ⊢
  obtain ⟨result, e⟩ := ended
  dsimp only at hleaves
  generalize hfiles : e.files = files at hleaves
  cases hleaves with
  | untouched help => exact ⟨fun _ => .inl hfiles, fun hcode => .inl ⟨help hcode, hfiles⟩⟩
  | @emptied path text asked free unencodable =>
      refine ⟨fun _ => .inr ⟨path, text, asked, free, .inl ⟨unencodable, rfl, hfiles⟩⟩, ?_⟩
      exact fun hcode => absurd hcode Nat.one_ne_zero
  | @unsaid path text asked free encodable =>
      refine ⟨fun _ => .inr ⟨path, text, asked, free, .inr ⟨encodable, rfl, hfiles⟩⟩, ?_⟩
      exact fun hcode => absurd hcode Nat.one_ne_zero
  | @written path text asked =>
      refine ⟨fun hfailed => absurd rfl hfailed, fun _ => .inr ⟨path, text, asked, ?_, ?_⟩⟩
      · dsimp only
        rw [hfiles, Files.get?_put, if_pos rfl]
      · intro other hother
        dsimp only
        rw [hfiles, Files.get?_put, if_neg hother]

/-- A source whose title is the escape of a lone surrogate. -/
def surrogateWorld : World :=
  ⟨⟨[(.ofText "in.tsp", "@service(\x7b title: \"\\ud800\" \x7d)")]⟩, [], .unicode⟩

/-- The conversion fails, and has left its output file empty. -/
theorem run_surrogateWorld :
    (run surrogateWorld ["to-jsonapi", "in.tsp", "-o", "out.json"]).exitCode = 1 ∧
      surrogateWorld.files.get? (.ofText "out.json") = none ∧
      (run surrogateWorld ["to-jsonapi", "in.tsp", "-o", "out.json"]).files.get?
        (.ofText "out.json") = some "" := by
  decide +kernel

def shopWorld : World :=
  ⟨⟨[(.ofText "shop.tsp", "namespace Shop \x7b\n\x7d")]⟩, [], .unicode⟩

-- A file cannot be written below another one.
example :
    (run shopWorld ["-v", "to-jsonapi", "shop.tsp", "-o", "shop.tsp/out.json"]).exitCode = 1 := by
  decide +kernel

example : (run shopWorld ["-v", "to-jsonapi", "shop.tsp", "-o", "out.json"]).exitCode = 0 := by
  decide +kernel

end ApiShapes.CommandLine
