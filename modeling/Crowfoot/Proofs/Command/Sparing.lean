import Crowfoot.Command.Execution
import Crowfoot.Proofs.Document.Interchange
import Crowfoot.Proofs.Schema.Validity

/-
What a run of the program leaves behind. A command that does not succeed changes no file, and one that does changes its
destination at most. No run prints more than the report that it ends with.

- `Quiet`: a part of a run that looks and computes only. `Leaves`: the ways in which a command may end, with what it
  leaves. `EndsOn`: a part of a run that does end, in one of these ways.
- `EndsOn.bind`: what is quiet may come before. `deliver_endsOn`: a file is written last of all, just before the report
  of success, so that nothing can fail after it.
- `carryOut_endsOn`: every command, from its first step on.
- `telling_spec`: a failure is told once, by the handler around all commands; a report that a command has given is not
  told again.
- `run_spares`: the program as a whole.
-/

namespace Crowfoot

/-! ## Files -/

/-- a file that is written stands at its place, and every other place is as it was -/
theorem Files.node?_write {fs fs' : Files} {p : Path} {text : String} (h : fs.write p text = .ok fs') :
    ∃ l, fs.locate p = .ok l ∧ fs'.node? l = some (.file (.text text)) ∧ ∀ l', l' ≠ l → fs'.node? l' = fs.node? l' := by
  have hset : ∀ l, l ≠ [] → (fs.setNode l (.file (.text text))).node? l = some (.file (.text text)) ∧
      ∀ l', l' ≠ l → (fs.setNode l (.file (.text text))).node? l' = fs.node? l' := by
    intro l hl
    refine ⟨by simp [node?, setNode, hl], fun l' hne => ?_⟩
    have hfilter : (fs.nodes.filter (·.1 ≠ l)).lookup l' = fs.nodes.lookup l' := by
      induction fs.nodes with
      | nil => rfl
      | cons n nodes ih => grind
    simp only [node?, setNode, List.lookup_cons, beq_eq_false_iff_ne.2 hne, hfilter]
  obtain ⟨l, hl, h⟩ := except_bind_eq_ok.1 h
  have hroot : l = [] → fs.node? l = some .directory := fun h => by rw [h]; rfl
  refine ⟨l, hl, ?_⟩
  split at h
  · cases h
  · rename_i _ old hold
    cases h
    exact hset l fun hnil => by rw [hroot hnil] at hold; cases hold
  · rename_i hnone
    split_ifs at h
    cases h
    exact hset l fun hnil => by rw [hroot hnil] at hnone; cases hnone

namespace Command

variable {α β : Type} {desk : Desk}

/-! ## Looking -/

/-- a part of a run that changes nothing; it may fail -/
def Quiet (p : DeskM α) : Prop :=
  ∀ desk, (∃ a, p desk = .ok a desk) ∨ ∃ f, p desk = .error (.failed f) desk

theorem bind_of_ok {p : DeskM α} {f : α → DeskM β} {desk' : Desk} {a : α} (h : p desk = .ok a desk') :
    (p >>= f) desk = f a desk' := by
  simp only [bind, EStateM.bind, h]

theorem bind_of_error {p : DeskM α} {f : α → DeskM β} {desk' : Desk} {e : Ending} (h : p desk = .error e desk') :
    (p >>= f) desk = .error e desk' := by
  simp only [bind, EStateM.bind, h]

theorem Quiet.bind {p : DeskM α} {f : α → DeskM β} (hp : Quiet p) (hf : ∀ a, Quiet (f a)) : Quiet (p >>= f) := by
  intro desk
  rcases hp desk with ⟨a, ha⟩ | ⟨e, he⟩
  · rw [bind_of_ok ha]
    exact hf a desk
  · exact Or.inr ⟨e, bind_of_error he⟩

theorem readText_of_ok {source : Source} {text : String} (h : desk.textOf source = .ok text) :
    (Host.readText source : DeskM String) desk = .ok text desk := by
  simp only [Host.readText, h]

theorem readText_of_error {source : Source} {f : Failure} (h : desk.textOf source = .error f) :
    (Host.readText source : DeskM String) desk = .error (.failed f) desk := by
  simp only [Host.readText, h]

theorem quiet_readText (source : Source) : Quiet (Host.readText source : DeskM String) := by
  intro desk
  cases h : desk.textOf source with
  | ok text => exact Or.inl ⟨text, readText_of_ok h⟩
  | error f => exact Or.inr ⟨f, readText_of_error h⟩

theorem readText_eq_ok {source : Source} {text : String}
    (h : (Host.readText source : DeskM String) desk = .ok text desk) : desk.textOf source = .ok text := by
  cases htext : desk.textOf source with
  | ok text' => rw [readText_of_ok htext] at h; cases h; rfl
  | error f => rw [readText_of_error htext] at h; cases h

theorem quiet_obtained (r : Except Failure α) : Quiet (obtained r : DeskM α) := by
  intro desk
  cases r with
  | ok a => exact Or.inl ⟨a, rfl⟩
  | error f => exact Or.inr ⟨f, rfl⟩

theorem obtained_eq_ok {r : Except Failure α} {a : α} (h : (obtained r : DeskM α) desk = .ok a desk) : r = .ok a := by
  cases r with
  | ok a' => cases h; rfl
  | error f => cases h

theorem quiet_load (source : Source) : Quiet (load source : DeskM (Schema Float)) :=
  (quiet_readText source).bind fun _ => quiet_obtained _

theorem load_eq_ok {source : Source} {s : Schema Float} (h : (load source : DeskM (Schema Float)) desk = .ok s desk) :
    ∃ text, desk.textOf source = .ok text ∧ Document.decode text = .ok s := by
  rcases quiet_readText source desk with ⟨text, htext⟩ | ⟨f, hf⟩
  · rw [load, bind_of_ok htext] at h
    exact ⟨text, readText_eq_ok htext, except_mapError_eq_ok.1 (obtained_eq_ok h)⟩
  · rw [load, bind_of_error hf] at h
    cases h

theorem load_of_ok {source : Source} {text : String} {s : Schema Float} (htext : desk.textOf source = .ok text)
    (hs : Document.decode text = .ok s) : (load source : DeskM (Schema Float)) desk = .ok s desk := by
  rw [load, bind_of_ok (readText_of_ok htext), hs]
  rfl

/-! ## Ending -/

/-- files of which one place at most has changed, that of the target -/
def Changed (target : Option String) (before after : Files) : Prop :=
  after = before ∨ ∃ path content, target = some path ∧ before.write (Path.ofText path) content = .ok after

/-- how a command may end, and what it leaves then: a failure leaves everything as it was, a refusal leaves its report,
and only success leaves a file too, provided that the input was read -/
inductive Leaves (target : Option String) (loaded : Prop) (before : Desk) : Ending → Desk → Prop where
  | failed (f : Failure) : Leaves target loaded before (.failed f) before
  | refused {code : ℕ} (report : Json) (hcode : code ≠ 0) :
    Leaves target loaded before (.finished code report) { before with printed := before.printed ++ [report] }
  | delivered (report : Json) {files : Files} (hfiles : Changed target before.files files) (hloaded : loaded) :
    Leaves target loaded before (.finished 0 report)
      { before with files := files, printed := before.printed ++ [report] }

/-- a part of a run that ends the program -/
def EndsOn (target : Option String) (loaded : Prop) (desk : Desk) (p : DeskM α) : Prop :=
  ∃ e after, p desk = .error e after ∧ Leaves target loaded desk e after

variable {target : Option String} {loaded : Prop}

/-- what is quiet may come before -/
theorem EndsOn.bind {p : DeskM α} {f : α → DeskM β} (hp : Quiet p)
    (hf : ∀ a, p desk = .ok a desk → EndsOn target loaded desk (f a)) : EndsOn target loaded desk (p >>= f) := by
  rcases hp desk with ⟨a, ha⟩ | ⟨failure, hfailure⟩
  · obtain ⟨e, after, hrun, hleaves⟩ := hf a ha
    exact ⟨e, after, (bind_of_ok ha).trans hrun, hleaves⟩
  · exact ⟨.failed failure, desk, bind_of_error hfailure, .failed failure⟩

theorem finish_eq (code : ℕ) (report : Json) (desk : Desk) : (finish code report : DeskM α) desk =
    .error (.finished code report) { desk with printed := desk.printed ++ [report] } := rfl

theorem endsOn_refused {code : ℕ} (report : Json) (hcode : code ≠ 0) :
    EndsOn target loaded desk (finish code report : DeskM α) :=
  ⟨_, _, finish_eq code report desk, .refused report hcode⟩

theorem endsOn_reported (report : Json) (hloaded : loaded) : EndsOn target loaded desk (finish 0 report : DeskM α) :=
  ⟨_, _, finish_eq 0 report desk, .delivered report (Or.inl rfl) hloaded⟩

/-- a file is written and success reported, or nothing has happened -/
theorem endsOn_written {path : String} (content : String) (report : Json) (hloaded : loaded) :
    EndsOn (some path) loaded desk (do Host.writeText path content; finish 0 report : DeskM α) := by
  cases hwrite : desk.files.write (Path.ofText path) content with
  | error e =>
    have hfails : (Host.writeText path content : DeskM Unit) desk = .error (.failed (.unwritable e)) desk := by
      simp only [Host.writeText, hwrite]
    exact ⟨_, _, bind_of_error hfails, .failed _⟩
  | ok fs =>
    have hwritten : (Host.writeText path content : DeskM Unit) desk = .ok () { desk with files := fs } := by
      simp only [Host.writeText, hwrite]
    exact ⟨_, _, (bind_of_ok hwritten).trans (finish_eq 0 report _),
      .delivered report (Or.inr ⟨path, content, rfl, hwrite⟩) hloaded⟩

/-- a schema without a text fails before anything is written -/
theorem deliver_endsOn (s : Schema Float) (output : Option String) (hloaded : loaded) :
    EndsOn output loaded desk (do finish 0 (← deliver s output) : DeskM α) := by
  rw [deliver, bind_assoc]
  refine EndsOn.bind (quiet_obtained _) fun text _ => ?_
  cases output with
  | some path =>
    have hassoc : ∀ (write : DeskM Unit) (report : Json),
        ((do write; return report) >>= finish 0 : DeskM α) = (do write; finish 0 report) := fun write report => by
      rw [bind_assoc]
      simp only [pure_bind]
    dsimp only
    rw [hassoc]
    exact endsOn_written text _ hloaded
  | none => exact endsOn_reported _ hloaded

/-! ## Commands -/

namespace Invocation

variable {σ : Type} [IdSupply σ] (readScript : Ddl.Reader)

/-- the text that a command works on; a server works on none -/
def source? : Invocation → Option Source
  | importSql source _ _ | exportSql source _ _ | validate source => some source
  | layout source _ | junction source _ _ _ => some source
  | serve _ _ => none

/-- the one file that a command may change -/
def target? : Invocation → Option String
  | importSql _ _ output | exportSql _ _ output => output
  | layout source output | junction source _ _ output => destination source output
  | validate _ | serve _ _ => none

/-- a command finds its input, and a schema in it -/
def Loads (ids : σ) (desk : Desk) : Invocation → Prop
  | importSql source dialect _ => ∃ text, desk.textOf source = .ok text ∧
    ∃ made : Schema Float × σ, Ddl.importTextWith readScript text (dialect.map Ddl.Dialect.name) ids = .ok made
  | exportSql source _ _ | validate source | layout source _ | junction source _ _ _ =>
    ∃ text, desk.textOf source = .ok text ∧ ∃ s, Document.decode text = .ok s
  | serve _ _ => False

/-- every command ends in one of the ways that spare its files -/
theorem carryOut_endsOn {i : Invocation} {source : Source} (hi : i.source? = some source) (ids : σ) (desk : Desk) :
    EndsOn i.target? (i.Loads readScript ids desk) desk (i.carryOut readScript ids : DeskM Unit) := by
  have hload : ∀ {source s}, (load source : DeskM (Schema Float)) desk = .ok s desk →
      ∃ text, desk.textOf source = .ok text ∧ ∃ s, Document.decode text = .ok s := fun hs =>
    let ⟨text, htext, hdecode⟩ := load_eq_ok hs
    ⟨text, htext, _, hdecode⟩
  cases i with
  | importSql source dialect output =>
    refine EndsOn.bind (quiet_readText source) fun text htext => ?_
    refine EndsOn.bind (quiet_obtained _) fun made hmade => ?_
    exact deliver_endsOn made.1 output
      ⟨text, readText_eq_ok htext, made, except_mapError_eq_ok.1 (obtained_eq_ok hmade)⟩
  | exportSql source dialect output =>
    refine EndsOn.bind (quiet_load source) fun s hs => ?_
    cases output with
    | some path => exact endsOn_written _ _ (hload hs)
    | none => exact endsOn_reported _ (hload hs)
  | validate source =>
    refine EndsOn.bind (quiet_load source) fun s hs => ?_
    by_cases hvalid : (IssueSummary.ofIssues s.issues).valid
    · rw [if_pos hvalid]
      exact endsOn_reported _ (hload hs)
    · rw [if_neg hvalid]
      exact endsOn_refused _ two_ne_zero
  | layout source output =>
    refine EndsOn.bind (quiet_load source) fun s hs => ?_
    refine EndsOn.bind (quiet_obtained _) fun drawn _ => ?_
    exact deliver_endsOn drawn _ (hload hs)
  | junction source tableIdA tableIdB output =>
    refine EndsOn.bind (quiet_load source) fun s hs => ?_
    cases s.junction? tableIdA tableIdB ids with
    | none => exact endsOn_refused _ one_ne_zero
    | some made => exact deliver_endsOn made.1 _ (hload hs)
  | serve host port => cases hi

/-- a validation that loads its schema ends with a number that tells whether there are errors -/
theorem carryOut_validate {source : Source} {text : String} {s : Schema Float} (ids : σ)
    (htext : desk.textOf source = .ok text) (hs : Document.decode text = .ok s) :
    ((validate source).carryOut readScript ids : DeskM Unit) desk =
      .error (.finished (if 0 < (IssueSummary.ofIssues s.issues).errors then 2 else 0) (validationReport s))
        { desk with printed := desk.printed ++ [validationReport s] } := by
  have hcode : (if (IssueSummary.ofIssues s.issues).valid then 0 else 2) =
      if 0 < (IssueSummary.ofIssues s.issues).errors then 2 else 0 := by
    by_cases herrors : (IssueSummary.ofIssues s.issues).errors = 0
    · simp [IssueSummary.valid, herrors]
    · simp [IssueSummary.valid, herrors, Nat.pos_of_ne_zero herrors]
  rw [carryOut, bind_of_ok (load_of_ok htext hs), hcode]
  rfl

end Invocation

/-! ## The program -/

theorem telling_of_failed {p : DeskM Unit} {f : Failure} {after : Desk} (h : p desk = .error (.failed f) after) :
    telling p desk =
      .error (.failed f) { after with printed := after.printed ++ (Ending.failed f).report?.toList } := by
  by_cases hreported : f.isReported
  · simp only [telling, tryCatch, tryCatchThe, MonadExceptOf.tryCatch, EStateM.tryCatch, h, hreported, Ending.report?]
    rfl
  · simp only [telling, tryCatch, tryCatchThe, MonadExceptOf.tryCatch, EStateM.tryCatch, h, hreported, Ending.report?]
    simp
    rfl

theorem telling_of_finished {p : DeskM Unit} {code : ℕ} {report : Json} {after : Desk}
    (h : p desk = .error (.finished code report) after) : telling p desk = .error (.finished code report) after := by
  simp only [telling, tryCatch, tryCatchThe, MonadExceptOf.tryCatch, EStateM.tryCatch, h]
  rfl

/-- a command within the handler: it prints the report of its ending and no other, only success changes a file, and only
the target -/
theorem telling_spec {p : DeskM Unit} (h : EndsOn target loaded desk p) :
    ∃ e after, telling p desk = .error e after ∧ after.printed = desk.printed ++ e.report?.toList ∧
      (e.code? ≠ some 0 → after.files = desk.files) ∧ Changed target desk.files after.files ∧
      (e.code? = some 0 → loaded) := by
  obtain ⟨e, after, hrun, hleaves⟩ := h
  cases hleaves with
  | failed f =>
    refine ⟨_, _, telling_of_failed hrun, rfl, fun _ => rfl, Or.inl rfl, fun hcode => ?_⟩
    by_cases hreported : f.isReported <;> simp [Ending.code?, hreported] at hcode
  | refused report hcode =>
    exact ⟨_, _, telling_of_finished hrun, rfl, fun _ => rfl, Or.inl rfl, fun h => absurd (Option.some.inj h) hcode⟩
  | delivered report hfiles hloaded =>
    exact ⟨_, _, telling_of_finished hrun, rfl, fun h => absurd rfl h, hfiles, fun _ => hloaded⟩

section Program

variable {σ : Type} [IdSupply σ] {env : List (String × String)} {args : List String} {settings : Settings}
  {i : Invocation} {ids : σ} {readScript : Ddl.Reader}

theorem runOn_of_parsed (hload : Settings.load env = .ok settings) (hparse : parse settings args = .ok i) {e : Ending}
    {after : Desk} (h : (telling (i.carryOut readScript ids) : DeskM Unit) desk = .error e after) :
    runOn readScript env args ids desk = (e, after) := by
  simp only [runOn, program, hload, hparse, h]

/-- without a command nothing happens -/
theorem runOn_idle (readScript : Ddl.Reader) (ids : σ) (desk : Desk)
    (h : ∀ settings i source, Settings.load env = .ok settings → parse settings args = .ok i →
      i.source? ≠ some source) :
    (runOn readScript env args ids desk).2 = desk ∧ (runOn readScript env args ids desk).1.report? = none := by
  cases hload : Settings.load env with
  | error e => simp only [runOn, program, hload]; exact ⟨rfl, rfl⟩
  | ok settings =>
    cases hparse : parse settings args with
    | error cause => simp only [runOn, program, hload, hparse]; exact ⟨rfl, rfl⟩
    | ok i =>
      cases i with
      | serve host port => simp only [runOn, program, hload, hparse]; exact ⟨rfl, rfl⟩
      | _ => exact absurd rfl (h settings _ _ hload hparse)

/-- **Sparing runs.** Whatever the arguments, the files and the input, and whatever reads scripts, a run prints its own
report and no other, so that there is at most one. A run that does not end with 0, or that is broken off, leaves all
files as they were. Of one that does, no place in the tree changes but the destination of its command: the output if one
is named, else for a layout and for a junction the input. A command ends with 0 only if its input is there and is read as
a schema. A validation of a schema ends with 2 if there is an error and with 0 otherwise. -/
theorem run_spares (readScript : Ddl.Reader) (env : List (String × String)) (args : List String) (ids : σ)
    (desk : Desk) :
    let ending := (runOn readScript env args ids desk).1
    let after := (runOn readScript env args ids desk).2
    after.printed = desk.printed ++ ending.report?.toList ∧
      (ending.code? ≠ some 0 → after.files = desk.files) ∧
      (∀ l, after.files.node? l ≠ desk.files.node? l → ∃ settings i path, Settings.load env = .ok settings ∧
        parse settings args = .ok i ∧ i.target? = some path ∧ desk.files.locate (Path.ofText path) = .ok l) ∧
      ∀ settings i source, Settings.load env = .ok settings → parse settings args = .ok i → i.source? = some source →
        (ending.code? = some 0 → i.Loads readScript ids desk) ∧
        ∀ text s, i = .validate source → desk.textOf source = .ok text → Document.decode text = .ok s →
          ending.code? = some (if 0 < (IssueSummary.ofIssues s.issues).errors then 2 else 0) := by
  intro ending after
  by_cases hcommand : ∃ settings i source, Settings.load env = .ok settings ∧ parse settings args = .ok i ∧
      i.source? = some source
  · obtain ⟨settings, i, source, hload, hparse, hsource⟩ := hcommand
    obtain ⟨e, after', htelling, hprinted, hspared, hchanged, hloaded⟩ :=
      telling_spec (Invocation.carryOut_endsOn readScript hsource ids desk)
    have hrun : runOn readScript env args ids desk = (e, after') := runOn_of_parsed hload hparse htelling
    simp only [ending, after, hrun]
    refine ⟨hprinted, hspared, fun l hl => ?_, fun settings' i' source' hload' hparse' hsource' => ?_⟩
    · rcases hchanged with hsame | ⟨path, content, htarget, hwrite⟩
      · exact absurd (by rw [hsame]) hl
      · obtain ⟨place, hplace, -, hothers⟩ := Files.node?_write hwrite
        have hhere : l = place := by
          by_contra hne
          exact hl (hothers l hne)
        exact ⟨settings, i, path, hload, hparse, htarget, hhere ▸ hplace⟩
    · rw [hload] at hload'
      cases hload'
      rw [hparse] at hparse'
      cases hparse'
      refine ⟨hloaded, fun text s hvalidate htext hs => ?_⟩
      subst hvalidate
      rw [telling_of_finished (Invocation.carryOut_validate readScript ids htext hs)] at htelling
      cases htelling
      rfl
  · have hnone : ∀ settings i source, Settings.load env = .ok settings → parse settings args = .ok i →
        i.source? ≠ some source := fun settings i source hload hparse hsource =>
      hcommand ⟨settings, i, source, hload, hparse, hsource⟩
    obtain ⟨hdesk, hreport⟩ := runOn_idle readScript ids desk hnone
    rw [show after = desk from hdesk, show ending.report? = none from hreport]
    refine ⟨(List.append_nil _).symm, fun _ => rfl, fun l hl => absurd rfl hl, ?_⟩
    exact fun settings i source hload hparse hsource => absurd hsource (hnone settings i source hload hparse)

/-- two tables with one name, of which the second has no key -/
def rooms : Schema Float :=
  ⟨1, [⟨"t_1", "rooms", ⟨0, 0⟩, [⟨"c_1", "id", .integer, [.primaryKey]⟩]⟩, ⟨"t_2", "Rooms", ⟨0, 0⟩, []⟩], []⟩

/-- the text of their document -/
def roomsText : String := String.ofList (Json.chars Json.indented 0 (Document.schemaJson rooms))

/-- the document on the standard input, and a directory with two other files, of which one is no text -/
def lobby : Desk :=
  ⟨.text roomsText, ⟨["work"], [(["work"], .directory), (["work", "b.json"], .file (.text "")),
    (["work", "photo.json"], .file .bytes)]⟩, []⟩

theorem decode_roomsText : Document.decode roomsText = .ok rooms := by
  have hconstraints : ∀ t ∈ rooms.tables, ∀ c ∈ t.columns, c.constraints.Nodup := by simp [rooms]
  have hversion : Decimal.isWritable rooms.version := by decide +kernel
  obtain ⟨text, htext, hdecode⟩ := Document.exists_encode hconstraints hversion
  have hencode : Document.encode rooms = .ok roomsText := by
    rw [Document.encode, Json.pretty, Json.write, if_pos ((Document.isWritable_schemaJson rooms).trans hversion)]
    rfl
  rw [Except.ok.inj (hencode.symm.trans htext)]
  exact hdecode

theorem textOf_lobby : lobby.textOf .standardInput = .ok roomsText := rfl

theorem load_default : Settings.load [] = .ok Settings.default := rfl

/-- a junction of the two tables into that file -/
def joining : List String := ["junction", "--file", "-", "--table-a", "t_1", "--table-b=t_2", "--output", "b.json"]

theorem runOn_joining : runOn Ddl.readStatements [] joining (Stamping.mk 0) lobby =
    (.finished 1 (failureReport .noJunction), { lobby with printed := [failureReport .noJunction] }) := by
  have hparse : parse Settings.default joining = .ok (.junction .standardInput "t_1" "t_2" (some "b.json")) := by
    decide +kernel
  have hnone : rooms.junction? "t_1" "t_2" (Stamping.mk 0) = none := rfl
  have hcarried :
      ((Invocation.junction .standardInput "t_1" "t_2" (some "b.json")).carryOut Ddl.readStatements (Stamping.mk 0) :
        DeskM Unit) lobby =
        .error (.finished 1 (failureReport .noJunction)) { lobby with printed := [failureReport .noJunction] } := by
    rw [Invocation.carryOut, bind_of_ok (load_of_ok textOf_lobby decode_roomsText), hnone]
    rfl
  exact runOn_of_parsed load_default hparse (telling_of_finished hcarried)

/-- a junction that is refused leaves its output as it was, a validation finds the error, and one of a file that is no
text is broken off -/
theorem run_spares_rooms :
    (runOn Ddl.readStatements [] joining (Stamping.mk 0) lobby).1.code? = some 1 ∧
      (runOn Ddl.readStatements [] joining (Stamping.mk 0) lobby).2.files = lobby.files ∧
      (runOn Ddl.readStatements [] joining (Stamping.mk 0) lobby).2.printed = [failureReport .noJunction] ∧
      (runOn Ddl.readStatements [] ["validate", "--file=-"] (Stamping.mk 0) lobby).1.code? = some 2 ∧
      (runOn Ddl.readStatements [] ["validate", "--file=photo.json"] (Stamping.mk 0) lobby).1.code? = none ∧
      (runOn Ddl.readStatements [] ["validate", "--file=photo.json"] (Stamping.mk 0) lobby).2.files = lobby.files := by
  have hrefused : (runOn Ddl.readStatements [] joining (Stamping.mk 0) lobby).1.code? = some 1 := by
    rw [runOn_joining]
    rfl
  have hreport : (runOn Ddl.readStatements [] joining (Stamping.mk 0) lobby).1.report? =
      some (failureReport .noJunction) := by
    rw [runOn_joining]
    rfl
  have hbroken :
      (runOn Ddl.readStatements [] ["validate", "--file=photo.json"] (Stamping.mk 0) lobby).1.code? = none := by
    decide +kernel
  have hparse : parse Settings.default ["validate", "--file=-"] = .ok (.validate .standardInput) := by decide +kernel
  have herrors : (if 0 < (IssueSummary.ofIssues rooms.issues).errors then 2 else 0) = 2 := by decide +kernel
  obtain ⟨hprinted, hspared, -⟩ := run_spares Ddl.readStatements [] joining (Stamping.mk 0) lobby
  obtain ⟨-, -, -, hcommand⟩ := run_spares Ddl.readStatements [] ["validate", "--file=-"] (Stamping.mk 0) lobby
  have hchecked := (hcommand _ _ _ load_default hparse rfl).2 _ rooms rfl textOf_lobby decode_roomsText
  rw [herrors] at hchecked
  rw [hreport] at hprinted
  obtain ⟨-, hphoto, -⟩ := run_spares Ddl.readStatements [] ["validate", "--file=photo.json"] (Stamping.mk 0) lobby
  refine ⟨hrefused, hspared ?_, hprinted, hchecked, hbroken, hphoto ?_⟩
  · rw [hrefused]
    decide
  · rw [hbroken]
    decide

end Program

end Command

end Crowfoot
