import GraphAnswers.Program.Console
import GraphAnswers.Proofs.NewIndex
import GraphAnswers.Proofs.Programs
import GraphAnswers.Proofs.SteadyFiles
/-!
# Whom one asks makes no difference

A question is asked at the console, of a server, or by the program that evaluates.  The console has
one cache for all its questions; the server asks its registry each time, which compares states and
keeps indexes open.  As long as the files stay as they are, neither shows, and each of them tells
what the engine makes of the index (`Settings.HasIndex.front_ends_agree`).

They part where the registry cannot serve an index: it reads the state of the index before each
question, and the console does not.
-/
namespace GraphAnswers

open FileTree

/-- The engine of an installation. -/
def Settings.engine (s : Settings) : Engine := ⟨s.catalog, s.labelLanguage⟩

/-- **An index with the tables**, under a name of an installation. -/
structure Settings.HasIndex (s : Settings) (files : FileTree) (name path : String) (d : Database) :
    Prop where
  named : indexFile? s.indexRoot name = some path
  there : files.isFile path = true
  holds : files.database? path = some d
  tables : d.HasTables

/-- Whether an installation can serve an index. -/
def Settings.CanServe (s : Settings) (d : Database) : Prop :=
  (Program.Evaluate.serverOf s).registry.CanServe d

instance (s : Settings) (d : Database) : Decidable (s.CanServe d) :=
  inferInstanceAs (Decidable (Registry.CanServe _ _))

/-- What is told of a question about an index: what the engine makes of it, if it can be served. -/
def Settings.tells (s : Settings) (d : Database) (question : String) : String :=
  if s.CanServe d then Server.told ((s.engine.answer question).run d.index) else Failure.io.reply

/-! ### The server -/

/-- The replies to requests, one after another. -/
def Server.replies (files : FileTree) : Server → List Request → List String
  | _, [] => []
  | server, request :: rest =>
    (server.reply files request).1 :: replies files (server.reply files request).2 rest

/-- **The server of an installation**, after requests or before: all that it keeps is as the files
are. -/
structure Server.IsOf (server : Server) (s : Settings) (files : FileTree) : Prop where
  registry : ∃ opened,
    server.registry = { (Program.Evaluate.serverOf s).registry with opened }
  engine : server.engine = s.engine
  current : server.registry.IsCurrent files

namespace Server

variable {server : Server} {s : Settings} {files : FileTree} {name path : String} {d : Database}

theorem isOf_serverOf (s : Settings) (files : FileTree) :
    (Program.Evaluate.serverOf s).IsOf s files where
  registry := ⟨.empty, rfl⟩
  engine := rfl
  current := Registry.isCurrent_of_opened rfl

/-- A request is replied to as the index says, and leaves the server as it should be. -/
theorem IsOf.reply (h : server.IsOf s files) (hindex : s.HasIndex files name path d)
    (request : Request) :
    (request.index = name → (server.reply files request).1 = s.tells d request.question) ∧
      (server.reply files request).2.IsOf s files := by
  obtain ⟨⟨opened, hregistry⟩, hengine, hcurrent⟩ := h
  constructor
  · rintro rfl
    have hroot : indexFile? server.registry.root request.index = some path := by
      rw [hregistry]
      exact hindex.named
    have hserve : server.registry.CanServe d ↔ s.CanServe d := by
      rw [hregistry]
      exact Iff.rfl
    have htold := hcurrent.told_carryOut hroot hindex.there hindex.holds
      (server.engine.answer request.question)
    simp only [hserve] at htold
    unfold Settings.tells
    rw [← hengine]
    exact htold
  · obtain ⟨hleft, opened', hsame⟩ :=
      hcurrent.carryOut request.index (server.engine.answer request.question)
    exact ⟨⟨opened', hsame.trans (by rw [hregistry])⟩, hengine, hleft⟩

/-- **Each request about an index is replied to as the index says**, whatever else was asked
before. -/
theorem IsOf.replies (h : server.IsOf s files) (hindex : s.HasIndex files name path d)
    (requests : List Request) :
    List.Forall₂ (fun request reply => request.index = name → reply = s.tells d request.question)
      requests (server.replies files requests) := by
  induction requests generalizing server with
  | nil => exact .nil
  | cons request rest ih =>
    obtain ⟨htold, hleft⟩ := h.reply hindex request
    exact .cons htold (ih hleft)

end Server

namespace Program

variable {s : Settings} {files : FileTree} {name path : String} {d : Database}

/-! ### The program that evaluates -/

namespace Evaluate

/-- The request that a case makes. -/
def requestOf (settings : Settings) (c : EvalCase) : GraphAnswers.Request where
  index := c.index.getD settings.defaultIndex
  question := c.question

/-- What is noted of a case and a reply. -/
def judged (c : EvalCase) (reply : String) : String × Bool := (c.categoryName, c.isCorrect reply)

/-- Whether a case has passed, as a line. -/
def verdict (c : EvalCase) (reply : String) : String :=
  "  [" ++ (if c.isCorrect reply then "PASS" else "FAIL") ++ "] " ++ c.question

/-- What is printed of a case and a reply. -/
def reported (c : EvalCase) (reply : String) : String :=
  verdict c reply ++ "\n" ++
    if c.isCorrect reply then ""
    else "        expected: " ++ Text.quoted c.expected ++ "\n" ++
      ("        got:      " ++ Text.quoted reply ++ "\n")

/-- **What is compared with the cases, and printed of them**, are the replies of the server. -/
theorem prints_askAll (settings : Settings) (server : Server) (cases : List EvalCase)
    (t : FileTree) : Prints (askAll settings server cases) t
      (cases.zipWith judged (server.replies t (cases.map (requestOf settings))))
      (String.join
        (cases.zipWith reported (server.replies t (cases.map (requestOf settings))))) := by
  induction cases generalizing server with
  | nil => exact prints_pure t []
  | cons c rest ih =>
    unfold askAll
    refine (prints_files t).andThen ?_
    rw [List.map_cons, Server.replies, List.zipWith_cons_cons, List.zipWith_cons_cons,
      String.join_cons]
    rcases hreply : server.reply t (requestOf settings c) with ⟨reply, next⟩
    have hasked : server.reply t ⟨c.index.getD settings.defaultIndex, c.question⟩ =
        (reply, next) := hreply
    have hrest := (ih next).bind (f := fun noted => pure (judged c reply :: noted))
      (prints_pure t _)
    rw [String.append_empty] at hrest
    dsimp only
    rw [hasked]
    dsimp only
    generalize String.join
      (rest.zipWith reported (next.replies t (rest.map (requestOf settings)))) = others at hrest ⊢
    by_cases hcorrect : c.isCorrect reply = true
    · have htext : reported c reply ++ others = verdict c reply ++ "\n" ++ others := by
        unfold reported
        rw [if_pos hcorrect, String.append_empty]
      rw [htext]
      refine (prints_print t (verdict c reply)).bind ?_
      rw [if_neg (by simp [hcorrect])]
      exact hrest
    · have htext : reported c reply ++ others = verdict c reply ++ "\n" ++
          ("        expected: " ++ Text.quoted c.expected ++ "\n" ++
            ("        got:      " ++ Text.quoted reply ++ "\n" ++ others)) := by
        unfold reported
        rw [if_neg hcorrect]
        simp only [String.append_assoc]
      rw [htext]
      refine (prints_print t (verdict c reply)).bind ?_
      rw [if_pos (by simp [hcorrect])]
      exact (prints_print t _).bind ((prints_print t _).bind hrest)

end Evaluate

/-! ### The console -/

namespace Console

/-- The questions of an input: the lines that are not blank, up to the first that is no text. -/
def questions (input : List UInt8) : List String :=
  ((((Dump.splitLines input).map Text.ofOctets?).takeWhile Option.isSome).filterMap id).filter
    fun question => !(Text.trim question).isEmpty

/-- **Questions one after another** are answered as the index says, whatever the cache holds that
agrees with it. -/
theorem prints_answerEach (engine : Engine) {index : Index} {cache : LookupCache}
    (lines : List String) (t : FileTree) (h : cache.Agrees index) :
    Prints (answerEach engine index lines cache) t ()
      (String.join ((lines.filter fun question => !(Text.trim question).isEmpty).map
        fun question => Server.told ((engine.answer question).run index) ++ "\n")) := by
  induction lines generalizing cache with
  | nil => exact prints_pure t ()
  | cons question rest ih =>
    unfold answerEach
    by_cases hblank : (Text.trim question).isEmpty = true
    · rw [if_pos hblank, List.filter_cons_of_neg (by simp [hblank])]
      exact ih h
    · obtain ⟨hrun, hagrees⟩ := (engine.answer question).runCached_eq h
      rw [if_neg hblank, List.filter_cons_of_pos (by simp [hblank])]
      rw [List.map_cons, String.join_cons, ← hrun]
      rcases hasked : (engine.answer question).runCached index cache with ⟨outcome, after⟩
      rw [hasked] at hagrees
      have hgoOn := (prints_print t (Server.told outcome)).bind
        (f := fun _ => answerEach engine index rest after) (ih hagrees)
      cases outcome with
      | ok text => exact hgoOn
      | error failure => exact (prints_record t _ _).andThen hgoOn

/-- A call that asks for the index of a name, in an installation. -/
structure Asks (call : Invocation) (s : Settings) (files : FileTree) (name : String) : Prop where
  arguments : ∃ rest, call.arguments = "ask" :: rest ∧ rest.head?.getD s.defaultIndex = name
  settings : (perform (Program.settings call) { files }).1 = .ok s

/-- **All that the console prints**, as long as it can have its cache, are the answers to the
questions of its input. -/
theorem printsInAll_program {call : Invocation} (hasks : Asks call s files name)
    (hindex : s.HasIndex files name path d)
    (hcapacity : s.cacheCapacity ≤ LookupCache.maxCapacity) :
    PrintsInAll (program call) files (String.join ((questions call.input).map fun question =>
      Server.told ((s.engine.answer question).run (files.indexAt s.lookupTimeout path)) ++
        "\n")) := by
  obtain ⟨⟨rest, harguments, hname⟩, hsettings⟩ := hasks
  unfold program
  rw [harguments]
  show PrintsInAll (ask call rest.head?) files _
  unfold ask
  refine (prints_settings hsettings).andThenInAll ?_
  have hpath : s.indexPath (rest.head?.getD s.defaultIndex) = .ok path := by
    unfold Settings.indexPath
    rw [hname, hindex.named]
  refine (prints_indexPath hpath files).andThenInAll ?_
  refine (prints_files files).andThenInAll ?_
  dsimp only
  rw [hindex.there, if_neg (by simp), LookupCache.ofCapacity?_of_le hcapacity]
  refine (prints_record files _ _).andThenInAll ?_
  refine (prints_answerEach s.engine _ files
    (LookupCache.agrees_ofCapacity s.cacheCapacity _)).bindLastInAll ?_
  -- an input that is no text to its end makes the program fail after the last answer
  split
  · exact printsInAll_fail files _
  · exact (prints_pure files ()).inAll

end Console

end Program

open Program in
/-- **The front ends agree.**  Whatever else is asked of a server in between, it tells of a question
about an index what the program that evaluates compares with the case; and if the server can serve
the index, this is what the console prints. -/
theorem Settings.HasIndex.front_ends_agree {s : Settings} {files : FileTree} {name path : String}
    {d : Database} (hindex : s.HasIndex files name path d) :
    (∀ requests, List.Forall₂
      (fun request reply => request.index = name → reply = s.tells d request.question)
      requests ((Evaluate.serverOf s).replies files requests)) ∧
    (∀ cases, ∃ replies,
      Prints (Evaluate.askAll s (Evaluate.serverOf s) cases) files
        (cases.zipWith Evaluate.judged replies)
        (String.join (cases.zipWith Evaluate.reported replies)) ∧
      List.Forall₂
        (fun c reply => c.index.getD s.defaultIndex = name → reply = s.tells d c.question)
        cases replies) ∧
    (s.CanServe d → ∀ call, Console.Asks call s files name →
      (Console.transcript call files).output =
        String.join ((Console.questions call.input).map fun question =>
          s.tells d question ++ "\n")) := by
  have hserver := Server.isOf_serverOf s files
  refine ⟨hserver.replies hindex, fun cases => ?_, fun hserve call hasks => ?_⟩
  · refine ⟨_, Evaluate.prints_askAll s _ cases files, ?_⟩
    have hreplies := hserver.replies hindex (cases.map (Evaluate.requestOf s))
    exact (List.forall₂_map_left_iff).mp hreplies
  · have hable := hserve.1
    have hprints := Console.printsInAll_program hasks hindex hable.1
    rw [show files.indexAt s.lookupTimeout path = d.index from
      FileTree.indexAt_eq hindex.holds hable.2] at hprints
    have htells (question : String) : s.tells d question =
        Server.told ((s.engine.answer question).run d.index) := if_pos hserve
    simp only [htells]
    exact hprints.output_run _ _

/-! ### An installation with one index -/

namespace Program.Console

/-- The settings of an installation, without an index. -/
def configured (settings : String) : FileTree :=
  FileTree.oneDump.set ["config.toml"] (.file (.octets (Text.octets settings)))

/-- An index beside the settings of an installation. -/
def installed (settings : String) (d : Database) : FileTree :=
  (configured settings).set ["f.db"] (.file (.index d))

theorem hasIndex_installed {s : Settings} {d : Database} (htables : d.HasTables) (settings : String)
    (hroot : s.indexRoot = ".") : s.HasIndex (installed settings d) "f" "./f.db" d := by
  have hconfig : FileTree.oneDump.hasPlace ["config.toml"] = true := by decide
  have hopened : (configured settings).opening? "./f.db" = some { place := ["f.db"] } :=
    (opening?_set hconfig _ _).trans opening?_oneDump
  have hholds : (installed settings d).Holds "./f.db" { place := ["f.db"] } d :=
    holds_set hopened rfl (by decide) d
  have hlocated : (installed settings d).locate? "./f.db" = some ["f.db"] := by
    have hplace := hasPlace_of_opening? hopened
    refine ((sameDirectories_set hplace _).locate? _).trans ?_
    exact ((sameDirectories_set hconfig _).locate? _).trans (by decide)
  obtain ⟨c, hc, _⟩ := hholds.content
  exact
    { named := by
        rw [hroot]
        decide +kernel
      there := isFile_of_content? hlocated hc
      holds := hholds.database?
      tables := htables }

/-- A call that asks. -/
def asking (input : String) : Invocation := { arguments := ["ask"], input := Text.octets input }

/-- An index that knows of one film. -/
def oneFilm : Database := { Migration.fresh with
  store := { rows := [⟨⟨"m.1", "label", "Jaws @en"⟩, "d"⟩, ⟨⟨"m.1", "type", "film film"⟩, "d"⟩] } }

theorem front_ends_agree_jaws :
    (transcript (asking "What is Jaws\n\nhello\nWhat is Jaws\n")
      (installed "factqa = ['.', 'f']" oneFilm)).output =
        "m.1: film film\nRequest not processable!\nm.1: film film\n" ∧
    (Evaluate.serverOf { indexRoot := ".", defaultIndex := "f" }).replies
      (installed "factqa = ['.', 'f']" oneFilm) [⟨"f", "What is Jaws"⟩] = ["m.1: film film"] := by
  have hindex : Settings.HasIndex { indexRoot := ".", defaultIndex := "f" }
      (installed "factqa = ['.', 'f']" oneFilm) "f" "./f.db" oneFilm :=
    hasIndex_installed (Migration.fresh_hasTables.withStore _) _ rfl
  have hasks : Asks (asking "What is Jaws\n\nhello\nWhat is Jaws\n")
      { indexRoot := ".", defaultIndex := "f" } (installed "factqa = ['.', 'f']" oneFilm) "f" :=
    ⟨⟨[], rfl, rfl⟩, by decide +kernel⟩
  obtain ⟨hserver, _, hconsole⟩ := hindex.front_ends_agree
  constructor
  · rw [hconsole (by decide +kernel) _ hasks]
    decide +kernel
  · obtain ⟨hreply, _⟩ := List.forall₂_cons.mp (hserver [⟨"f", "What is Jaws"⟩])
    rw [Server.replies, Server.replies, hreply rfl]
    decide +kernel

/-- What the console prints and what the server replies of a question that has none of the known
forms, about an index that cannot be served. -/
structure Part (settings : String) (s : Settings) (d : Database) (printed : String) : Prop where
  index : s.HasIndex (installed settings d) "f" "./f.db" d
  asks : Asks (asking "hello\n") s (installed settings d) "f"
  console : (transcript (asking "hello\n") (installed settings d)).output = printed
  server : ((Evaluate.serverOf s).reply (installed settings d) ⟨"f", "hello"⟩).1 =
    "I was unable to process your request!"

/-- An index whose records cannot be added up. -/
def overfull : Database := { Migration.fresh with
  store := { dumps := [⟨"d", "a.nt", "", Store.maxCount, 0⟩, ⟨"e", "b.nt", "", 1, 1⟩] } }

/-- **Where an index cannot be served, the console tells something else or nothing**: readers would
wait too long, the cache would be too large, or the records cannot be added up. -/
theorem front_ends_part :
    Part "factqa = ['.', 'f']\nserver = ['127.0.0.1', 8080, 3000000000]"
      { indexRoot := ".", defaultIndex := "f", lookupTimeout := 3000000000 } Migration.fresh
      "Request not processable!\n" ∧
    Part "factqa = ['.', 'f']\nserver = ['127.0.0.1', 8080, 5000, 252201579132747777]"
      { indexRoot := ".", defaultIndex := "f", cacheCapacity := 252201579132747777 }
      Migration.fresh "" ∧
    Part "factqa = ['.', 'f']" { indexRoot := ".", defaultIndex := "f" } overfull
      "Request not processable!\n" := by
  have hfresh := Migration.fresh_hasTables
  refine ⟨?waiting, ?caching, ?adding⟩
  case waiting =>
    exact ⟨hasIndex_installed hfresh _ rfl, ⟨⟨[], rfl, rfl⟩, by decide +kernel⟩, by decide +kernel,
      by decide +kernel⟩
  case caching =>
    exact ⟨hasIndex_installed hfresh _ rfl, ⟨⟨[], rfl, rfl⟩, by decide +kernel⟩, by decide +kernel,
      by decide +kernel⟩
  case adding =>
    exact ⟨hasIndex_installed (hfresh.withStore _) _ rfl, ⟨⟨[], rfl, rfl⟩, by decide +kernel⟩,
      by decide +kernel, by decide +kernel⟩

end Program.Console

end GraphAnswers
