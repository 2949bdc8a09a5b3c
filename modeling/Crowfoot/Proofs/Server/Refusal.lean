import Crowfoot.Proofs.Outcome
import Crowfoot.Proofs.Store.Line
import Crowfoot.Server.Handler

/-
Refusals without a trace. A request that is refused, and a file that cannot be opened, leave the store as it was: the
schema and its history, the mark of unsaved changes, the path of the file, and the source of ids. So nobody can tell
later that they were there.

- `Ddl.importing_refused`: the one task that draws ids before it may fail draws none when it is refused, as a script is
  read to its end before the first id is drawn.
- `UnchangedIfRefused`: an outcome that is no refusal, or leaves the store as it was. A reply about a store that was
  changed is never a refusal (`ofResult_refuses`). `perform_unchangedIfRefused` goes through the tasks.
- `Call`, `serve`: requests and files one after another. `serve_refused`: a call that is refused among others, whatever
  reads the scripts.
-/

namespace Crowfoot

/-! ## Scripts -/

namespace Ddl

variable {κ σ : Type} [Coordinate κ] [IdSupply σ] {read : Reader}

/-- a script that is refused, for its dialect or because it cannot be read, has used up no ids -/
theorem importing_refused {sql : String} {dialect : Option String} {ids : σ} {e : ImportError}
    (h : (importing read sql dialect ids : Except ImportError (Schema κ) × σ).1 = .error e)
    (hrefused : ∀ cause, e ≠ .assembly cause) : (importing (κ := κ) read sql dialect ids).2 = ids := by
  unfold importing at h ⊢
  by_cases hblank : Text.trim sql = ""
  · rw [if_pos hblank]
  · rw [if_neg hblank] at h ⊢
    cases hdialect : Dialect.resolve? dialect with
    | error e' => rfl
    | ok chosen =>
      rw [hdialect] at h
      dsimp only at h ⊢
      cases hread : firstReading read (Text.trim sql) ((chosen.map fun d => [d]).getD Dialect.all) with
      | error e' => rfl
      | ok statements =>
        rw [hread] at h
        obtain ⟨cause, -, rfl⟩ := except_mapError_eq_error.1 h
        exact absurd rfl (hrefused cause)

end Ddl

namespace Server

open Document

/-- whether a reply refuses a request -/
def Reply.refuses (r : Reply) : Bool := r.status? = some 400 || r.status? = some 422

/-- what can be sent as a result is a result, and what cannot is not sent -/
theorem ofResult_refuses (v : Json) : (Reply.ofResult v).refuses = false := by
  unfold Reply.ofResult
  split_ifs <;> rfl

/-! ## Outcomes -/

section Outcomes

variable {σ : Type} {st : Store Float σ}

/-- an outcome that is no refusal, or leaves the store as it was -/
def UnchangedIfRefused (st : Store Float σ) (o : Outcome σ) : Prop := o.reply.refuses = true → o.store = st

theorem still_unchangedIfRefused (r : Reply) : UnchangedIfRefused st (.still st r) := fun _ => rfl

theorem unchangedIfRefused_of_accepted {o : Outcome σ} (h : o.reply.refuses = false) : UnchangedIfRefused st o := by
  intro hrefused
  rw [h] at hrefused
  cases hrefused

theorem committed_unchangedIfRefused (r : Bool × Store Float σ) : UnchangedIfRefused st (committed r) :=
  unchangedIfRefused_of_accepted (ofResult_refuses _)

theorem movedBy_unchangedIfRefused (r : ℕ × Store Float σ) : UnchangedIfRefused st (movedBy r) :=
  unchangedIfRefused_of_accepted (ofResult_refuses _)

theorem reading_unchangedIfRefused {α : Type} {r : Reading α} {next : α → Outcome σ}
    (h : ∀ x, UnchangedIfRefused st (next x)) : UnchangedIfRefused st (reading st r next) := by
  cases r with
  | ok x => exact h x
  | error refusal => cases refusal <;> exact still_unchangedIfRefused _

theorem readingBody_unchangedIfRefused {α : Type} {r : Request} {read : Json → Reading α} {next : α → Outcome σ}
    (h : ∀ x, UnchangedIfRefused st (next x)) : UnchangedIfRefused st (readingBody st r read next) := by
  unfold readingBody
  split
  · exact reading_unchangedIfRefused h
  · exact still_unchangedIfRefused _

theorem exportSql_unchangedIfRefused (st : Store Float σ) (dialect : Option String) :
    UnchangedIfRefused st (exportSql st dialect) := by
  unfold exportSql
  split <;> exact still_unchangedIfRefused _

theorem exportJson_unchangedIfRefused (st : Store Float σ) : UnchangedIfRefused st (exportJson st) := by
  unfold exportJson
  split <;> exact still_unchangedIfRefused _

theorem openPosition_unchangedIfRefused (st : Store Float σ) (centre : Position Float) :
    UnchangedIfRefused st (openPosition st centre) := by
  unfold openPosition
  split <;> exact still_unchangedIfRefused _

end Outcomes

/-! ## Tasks -/

section Tasks

variable {σ : Type} [IdSupply σ] (readScript : Ddl.Reader) (st : Store Float σ)

/-- a document is read before it is committed -/
theorem replaceSchema_unchangedIfRefused (v : Json) : UnchangedIfRefused st (replaceSchema st v) := by
  unfold replaceSchema
  split
  · exact committed_unchangedIfRefused _
  · exact still_unchangedIfRefused _
  · exact still_unchangedIfRefused _

/-- a script is read before ids are drawn for what it makes -/
theorem importSql_unchangedIfRefused (sql : String) (dialect : Option String) :
    UnchangedIfRefused st (importSql readScript st sql dialect) := by
  unfold importSql
  dsimp only
  cases hresult : (Ddl.importing readScript sql dialect st.ids : Except Ddl.ImportError (Schema Float) × σ).1 with
  | ok s => exact committed_unchangedIfRefused _
  | error e =>
    have hids := Ddl.importing_refused hresult
    cases e with
    | assembly cause => exact unchangedIfRefused_of_accepted rfl
    | unknownDialect e =>
      intro _
      exact congrArg (fun ids => { st with ids := ids }) (hids fun _ => nofun)
    | unreadable d fault =>
      intro _
      exact congrArg (fun ids => { st with ids := ids }) (hids fun _ => nofun)

theorem layout_unchangedIfRefused : UnchangedIfRefused st (layout st) := by
  unfold layout
  split_ifs
  · exact still_unchangedIfRefused _
  · split
    · exact committed_unchangedIfRefused _
    · exact still_unchangedIfRefused _

theorem junction_unchangedIfRefused (idA idB : String) : UnchangedIfRefused st (junction st idA idB) :=
  unchangedIfRefused_of_accepted (ofResult_refuses _)

/-- a batch that stops on the way is no refusal, as the actions before have been carried out -/
theorem runActions_unchangedIfRefused (requests : List ActionRequest) (centre : Position Float) :
    UnchangedIfRefused st (runActions st requests centre) := by
  refine unchangedIfRefused_of_accepted ?_
  unfold runActions batchReply
  dsimp only
  split
  · exact ofResult_refuses _
  · rfl
  · rfl

theorem perform_unchangedIfRefused (r : Request) (t : Task) :
    UnchangedIfRefused st (perform readScript st r t) := by
  cases t with
  | replaceSchema => exact readingBody_unchangedIfRefused (replaceSchema_unchangedIfRefused st)
  | resetSchema => exact committed_unchangedIfRefused _
  | undo => exact reading_unchangedIfRefused fun n => movedBy_unchangedIfRefused _
  | redo => exact reading_unchangedIfRefused fun n => movedBy_unchangedIfRefused _
  | importSql =>
    exact readingBody_unchangedIfRefused fun script => importSql_unchangedIfRefused readScript st script.1 script.2
  | exportJson => exact exportJson_unchangedIfRefused st
  | exportSql => exact exportSql_unchangedIfRefused st _
  | layout => exact layout_unchangedIfRefused st
  | openPosition => exact readingBody_unchangedIfRefused (openPosition_unchangedIfRefused st)
  | junction => exact readingBody_unchangedIfRefused fun pair => junction_unchangedIfRefused st pair.1 pair.2
  | actions => exact readingBody_unchangedIfRefused fun batch => runActions_unchangedIfRefused st batch.1 batch.2
  | _ => exact still_unchangedIfRefused _

theorem handle_unchangedIfRefused (r : Request) : UnchangedIfRefused st (handle readScript st r) := by
  unfold handle
  split
  · exact perform_unchangedIfRefused readScript st r _
  all_goals exact still_unchangedIfRefused _

end Tasks

/-! ## Calls -/

/-- what comes to an application: a request, or something that is done with the store from elsewhere, such as opening
a file -/
inductive Call where
  | request (r : Request)
  | change (c : Store.Change)

/-- what comes back -/
inductive Answer where
  | reply (r : Reply) (warnings : List Warning)
  | done (answer : Store.Answer)

/-- whether a request is refused, or a file is not opened -/
def Answer.refuses : Answer → Bool
  | reply r _ => r.refuses
  | done (.opened (some _)) => true
  | done _ => false

variable {σ : Type} [IdSupply σ] (readScript : Ddl.Reader)

def call (st : Store Float σ) : Call → Answer × Store Float σ
  | .request r => (.reply (handle readScript st r).reply (handle readScript st r).warnings,
      (handle readScript st r).store)
  | .change c => (.done (st.perform c).1, (st.perform c).2)

/-- one call after another, with what comes back from each -/
def serve (st : Store Float σ) : List Call → List Answer × Store Float σ
  | [] => ([], st)
  | c :: cs =>
    ((call readScript st c).1 :: (serve (call readScript st c).2 cs).1, (serve (call readScript st c).2 cs).2)

variable {readScript}

theorem call_refused {st : Store Float σ} {c : Call} (h : (call readScript st c).1.refuses = true) :
    (call readScript st c).2 = st := by
  cases c with
  | request r => exact handle_unchangedIfRefused readScript st r h
  | change c =>
    cases c with
    | «open» files path =>
      simp only [call, Store.perform] at h ⊢
      cases hopened : st.openFile files path with
      | ok st' =>
        rw [hopened] at h
        cases h
      | error e => rfl
    | _ => cases h

/-- **Refusals leave no trace.** Whatever reads the scripts and whatever came before, a request that is answered with
400 or 422 and a file that cannot be opened leave the whole store as it was. So whatever comes later is answered as if
the refused call had not been there, and ends in the same store. -/
theorem serve_refused (readScript : Ddl.Reader) (st : Store Float σ) (earlier later : List Call) (c : Call)
    (h : (call readScript (serve readScript st earlier).2 c).1.refuses = true) :
    (call readScript (serve readScript st earlier).2 c).2 = (serve readScript st earlier).2 ∧
      serve readScript st (earlier ++ c :: later) =
        ((serve readScript st (earlier ++ later)).1.insertIdx earlier.length
            (call readScript (serve readScript st earlier).2 c).1,
          (serve readScript st (earlier ++ later)).2) := by
  have hsame := call_refused h
  refine ⟨hsame, ?_⟩
  induction earlier generalizing st with
  | nil =>
    simp only [serve] at hsame
    simp only [List.nil_append, serve, hsame, List.length_nil, List.insertIdx_zero]
  | cons d ds ih =>
    rw [List.cons_append, List.cons_append, serve, serve, ih (call readScript st d).2 h hsame]
    rfl

/-- users are created and taken back -/
def usersCalls : List Call :=
  [.request ⟨"POST", "/api/actions", [],
      "\x7b\"actions\": [\x7b\"action\": \"createTable\", \"name\": \"users\"\x7d]\x7d"⟩,
    .request ⟨"POST", "/api/undo", [], ""⟩]

/-- a document without a version, a script that nothing reads, dialects that nobody knows, actions that are no list,
too many steps, a layout of nothing, a file that is not there and one that is no text -/
def troubles : List Call :=
  [.request ⟨"PUT", "/api/schema", [], "\x7b\"tables\": []\x7d"⟩,
    .request ⟨"POST", "/api/import/sql", [], "\x7b\"sql\": \"CREATE TABLE (\"\x7d"⟩,
    .request ⟨"POST", "/api/import/sql", [], "\x7b\"sql\": \"SELECT 1\", \"dialect\": \"Oracle\"\x7d"⟩,
    .request ⟨"GET", "/api/export/sql", [("dialect", "Oracle")], ""⟩,
    .request ⟨"POST", "/api/actions", [], "\x7b\"actions\": 5\x7d"⟩,
    .request ⟨"POST", "/api/redo", [("steps", "51")], ""⟩, .request ⟨"POST", "/api/layout", [], ""⟩,
    .change (.open Files.empty ⟨"", ["absent.json"]⟩),
    .change (.open ⟨["work"], [(["work"], .directory), (["work", "photo.json"], .file .bytes)]⟩ ⟨"", ["photo.json"]⟩)]

def freshStore : Store Float Counting := .ofSchema Schema.empty 5 ⟨"s", 0, []⟩

theorem serve_refused_users :
    troubles.Forall fun c =>
      (call Ddl.readStatements (serve Ddl.readStatements freshStore usersCalls).2 c).1.refuses = true ∧
        (serve Ddl.readStatements freshStore (usersCalls ++ c :: [.change (.redo 1)])).2 =
          (serve Ddl.readStatements freshStore (usersCalls ++ [.change (.redo 1)])).2 := by
  have hall : (troubles.all fun c =>
      (call Ddl.readStatements (serve Ddl.readStatements freshStore usersCalls).2 c).1.refuses) = true := by
    decide +kernel
  refine List.forall_iff_forall_mem.2 fun c hc => ?_
  have hrefused := List.all_eq_true.1 hall c hc
  have hserve := (serve_refused Ddl.readStatements freshStore usersCalls [.change (.redo 1)] c hrefused).2
  exact ⟨hrefused, by rw [hserve]⟩

end Server

end Crowfoot
