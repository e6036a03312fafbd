import GraphAnswers.Proofs.Fingerprint
import GraphAnswers.Proofs.KeptCaches
import GraphAnswers.Proofs.Requests
import GraphAnswers.Proofs.Results
/-!
# One reply comes back

Whatever a client sends, it gets back one reply, and a client that reads lines up to the line `END`
has the text of the reply then, all of it and nothing else (`Server.one_reply`).  No text of a reply
can pass for what ends it: the sentences for failures are fixed, and an answer consists of lines that
open with an identifier and a colon and end in a label.  That these lines are whole is owed to the
dumps: no row of theirs holds an end of line, and where a value is told as it stands in the rows,
without its margins being dropped, it holds no carriage return either.

The server may have answered any questions before, on the files as they were then.
-/
namespace GraphAnswers

open Text

/-! ### A reply and its lines -/

namespace Frame

variable {s : String} {lines : List String}

theorem content_of_isLine (h : IsLine s) : content s = s := by
  have hkeep : dropEndWhile (· == '\r') s.toList = s.toList := by
    unfold dropEndWhile
    rw [List.dropWhile_eq_self_iff.mpr, List.reverse_reverse]
    intro hlen hcr
    refine h.ending ?_
    rw [← List.head?_reverse, List.head?_eq_getElem?, List.getElem?_eq_getElem hlen,
      beq_iff_eq.mp hcr]
  unfold content
  rw [hkeep, String.ofList_toList]

/-- Whether lines can be told from the line that ends a reply. -/
structure IsTellable (lines : List String) : Prop where
  something : lines ≠ []
  one : ∀ l ∈ lines, IsLine l
  goesOn : ∀ l ∈ lines, l ≠ terminator

/-- **A client reads the lines of a reply**, and nothing is left. -/
theorem readLines_reply (h : IsTellable lines) :
    readLines (octets (reply (join "\n" lines))) = (.ok lines, []) := by
  obtain ⟨something, one, goesOn⟩ := h
  induction lines with
  | nil => exact absurd rfl something
  | cons l lines ih =>
    have hl := one l List.mem_cons_self
    have hcontent : content l ≠ terminator :=
      (content_of_isLine hl).symm ▸ goesOn l List.mem_cons_self
    by_cases hlines : lines = []
    · subst hlines
      have hsplit : octets (reply (join "\n" [l])) =
          octets l ++ 10 :: octets (terminator ++ Ending.lf.text) := by
        unfold reply
        rw [join_singleton, String.append_assoc, octets_append, octets_append, octets_newline,
          List.append_assoc]
        rfl
      have hend := readLines_terminator .lf []
      rw [List.append_nil] at hend
      rw [hsplit, readLines_line hl.one, if_neg hcontent, hend, content_of_isLine hl]
      rfl
    · have hsplit : octets (reply (join "\n" (l :: lines))) =
          octets l ++ 10 :: octets (reply (join "\n" lines)) := by
        unfold reply
        rw [join_cons "\n" l hlines]
        simp only [octets_append, octets_newline, List.append_assoc, List.cons_append,
          List.nil_append]
      rw [hsplit, readLines_line hl.one, if_neg hcontent, content_of_isLine hl,
        ih hlines (fun l' hl' => one l' (List.mem_cons_of_mem _ hl'))
          (fun l' hl' => goesOn l' (List.mem_cons_of_mem _ hl'))]
      rfl

/-- **Whether octets are one reply**: a text, an end of line and a line `END`, which no line of the
text is; and a client that reads lines has those of the text, and nothing is left. -/
structure Carries (sent : List UInt8) (text : String) : Prop where
  framed : sent = octets (text ++ "\n" ++ "END" ++ "\n")
  goesOn : "END" ∉ linesOf text
  read : readLines sent = (.ok (linesOf text), [])
  whole : join "\n" (linesOf text) = text

theorem carries_reply (h : IsTellable lines) :
    Carries (octets (reply (join "\n" lines))) (join "\n" lines) := by
  have hlines := linesOf_join h.something fun l hl => (h.one l hl).one
  exact ⟨rfl, fun hend => h.goesOn _ (hlines ▸ hend) rfl, hlines.symm ▸ readLines_reply h,
    congrArg _ hlines⟩

/-- What a client is told when there is no answer is one line. -/
theorem carries_failure (failure : Failure) :
    Carries (octets (reply failure.reply)) failure.reply := by
  have hone : IsTellable [failure.reply] := by
    have hall : IsLine failure.reply ∧ failure.reply ≠ terminator := by
      cases failure <;> (dsimp only [Failure.reply]; decide)
    refine ⟨List.cons_ne_nil _ _, fun l hl => ?_, fun l hl => ?_⟩
    · exact List.mem_singleton.mp hl ▸ hall.1
    · exact List.mem_singleton.mp hl ▸ hall.2
  have h := carries_reply hone
  rwa [join_singleton] at h

end Frame

/-! ### Files whose indexes come from dumps -/

theorem Database.isFromDumps_empty : Database.empty.IsFromDumps := fun _ hrow => by cases hrow

/-- Octets are no index, or one without rows. -/
theorem Content.isFromDumps_octets {octets : List UInt8} {d : Database}
    (h : (Content.octets octets).database? = some d) : d.IsFromDumps := by
  cases octets with
  | nil =>
    cases h
    exact Database.isFromDumps_empty
  | cons => cases h

/-- **Whether all indexes come from dumps**, also those that were removed. -/
def FileTree.IsFromDumps (t : FileTree) : Prop :=
  ∀ place, ∀ content ∈ t.contentsAt place, ∀ d, content.database? = some d → d.IsFromDumps

namespace FileTree

variable {t : FileTree} {place : Location} {patience : Nat} {h : Handle}

theorem mem_contentsAt {content : Content} : content ∈ t.contentsAt place ↔
    content ∈ (t.removed.find? place).getD [] ∨ t.node? place = some (.file content) := by
  unfold contentsAt
  rw [List.mem_append]
  cases t.node? place with
  | none => simp
  | some node => cases node <;> simp [eq_comm]

theorem isFromDumps_empty : empty.IsFromDumps := by
  intro place content hcontent
  rcases mem_contentsAt.mp hcontent with hremoved | hpresent
  · cases hremoved
  · unfold node? at hpresent
    split at hpresent <;> cases hpresent

/-- A file that is written comes from dumps if its own index does. -/
theorem IsFromDumps.set (ht : t.IsFromDumps) {content : Content}
    (hcontent : ∀ d, content.database? = some d → d.IsFromDumps) :
    (t.set place (.file content)).IsFromDumps := by
  intro other c hc
  rcases mem_contentsAt.mp hc with hremoved | hpresent
  · exact ht other c (mem_contentsAt.mpr (.inl hremoved))
  · unfold node? at hpresent
    by_cases hroot : other.isEmpty = true
    · rw [if_pos hroot] at hpresent
      cases hpresent
    · unfold FileTree.set at hpresent
      rw [if_neg hroot, SortedMap.find?_insert] at hpresent
      by_cases hsame : other = place
      · rw [if_pos hsame] at hpresent
        cases hpresent
        exact hcontent
      · rw [if_neg hsame] at hpresent
        refine ht other c (mem_contentsAt.mpr (.inr ?_))
        unfold node?
        rwa [if_neg hroot]

/-- **What is read in a file, is read in an index that comes from dumps.** -/
theorem IsFromDumps.of_readHeld {α : Type} {a : α} {read : Database → Except Failure α}
    (ht : t.IsFromDumps) (hread : t.readHeld patience h read = .ok a) :
    ∃ d, d.IsFromDumps ∧ read d = .ok a := by
  unfold readHeld at hread
  split at hread
  · cases hread
  · rename_i d hd
    split at hread
    · refine ⟨d, ?_, hread⟩
      cases hcontent : t.contentOf? h with
      | none =>
        rw [hcontent, Option.getD_none] at hd
        cases hd
        exact Database.isFromDumps_empty
      | some content =>
        rw [hcontent, Option.getD_some] at hd
        exact ht h.place content (List.mem_of_getElem? hcontent) d hd
    · cases hread

theorem IsFromDumps.isPlain_index (ht : t.IsFromDumps) : (t.index patience h).IsPlain := by
  constructor
  · intro lookup found hfound
    obtain ⟨d, hd, hread⟩ := ht.of_readHeld hfound
    exact hd.isPlain_index.property lookup found hread
  · intro term language found hfound
    obtain ⟨d, hd, hread⟩ := ht.of_readHeld hfound
    exact hd.isPlain_index.topics term language found hread

theorem IsFromDumps.givesOnly (ht : t.IsFromDumps) : t.GivesOnly Lookup.FindsPlain :=
  fun _ _ => ht.isPlain_index.property

end FileTree

/-! ### Servers -/

/-- **A server that may have answered before**: it began with no index opened, and each question came
when all indexes were from dumps. -/
inductive Server.Serving : Server → Prop
  | start {server : Server} (new : server.registry.opened = .empty) : Serving server
  | answer {server : Server} {files : FileTree} (before : Serving server)
      (fromDumps : files.IsFromDumps) (question name : String) :
      Serving (server.answer files question name).2

namespace Server

/-- What comes of the request that was sent: an answer, or why there is none. -/
def outcome (server : Server) (files : FileTree) (sent : List UInt8) : Except Failure String := do
  let request ← (Frame.readRequest sent).1
  (server.answer files request.question request.index).1

/-- The results that are found for the request that was sent, before they are put into words. -/
def results (server : Server) (files : FileTree) (sent : List UInt8) : Except Failure ResultMap := do
  let request ← (Frame.readRequest sent).1
  (server.registry.carryOut files request.index (server.engine.query request.question)).1

variable {server : Server} {files : FileTree} {question name text : String} {sent : List UInt8}

/-- What a server remembers is plain. -/
theorem Serving.remembersOnly (h : server.Serving) :
    server.registry.RemembersOnly Lookup.FindsPlain := by
  induction h with
  | start new => exact Registry.remembersOnly_of_opened new
  | answer _ fromDumps question name ih => exact ih.carryOut fromDumps.givesOnly _

/-- A connection leaves a server that has answered once more, or not. -/
theorem Serving.connection (h : server.Serving) (hfiles : files.IsFromDumps)
    (octets : List UInt8) : (server.connection files octets).2.Serving := by
  unfold Server.connection
  split
  · exact h
  · exact h.answer hfiles _ _

/-- **An answer consists of lines**, one for each anchor of the results, in their order. -/
theorem Serving.tellable (h : server.Serving) (hfiles : files.IsFromDumps)
    (hcatalog : server.engine.catalog.IsPlain)
    (hanswer : (server.answer files question name).1 = .ok text) :
    ∃ lines results, text = join "\n" lines ∧ Frame.IsTellable lines ∧
      (server.registry.carryOut files name (server.engine.query question)).1 = .ok results ∧
      List.Forall₂ Element.Heads results.anchors lines := by
  obtain ⟨results, patience, held, hresults, hquery, hwording⟩ :=
    h.remembersOnly.carryOut_bind_ok hfiles.givesOnly hanswer
  obtain ⟨hplain, hsome⟩ := Engine.comes_query hfiles.isPlain_index hcatalog hquery
  obtain ⟨lines, htext, hne, hlines, hheads⟩ := Engine.comes_wording hplain hsome hwording
  refine ⟨lines, results, htext, ⟨hne, hlines, fun l hl hend => ?_⟩, hresults, hheads⟩
  -- the line has a colon
  obtain ⟨_, _, labels, hlabels⟩ := Inquiry.exists_of_mem_forall₂ hheads hl
  have hcolon : ':' ∈ l.toList := by simp [hlabels]
  rw [hend] at hcolon
  exact absurd hcolon (by decide)

theorem connection_eq : (server.connection files sent).1 =
    octets (Frame.reply (told (server.outcome files sent))) := by
  unfold Server.connection outcome
  cases (Frame.readRequest sent).1 <;> rfl

/-- **One reply comes back, whatever is sent.**  It is framed so that its text can be read, and only
its text; and if the question is answered, the text has one line for each anchor of the results, in
their order.  The sentences for failures are all framed in the same way, so also for those who have
waited too long. -/
theorem one_reply (hserver : server.Serving) (hfiles : files.IsFromDumps)
    (hcatalog : server.engine.catalog.IsPlain) (sent : List UInt8) :
    Frame.Carries (server.connection files sent).1 (told (server.outcome files sent)) ∧
    (∀ answer, server.outcome files sent = .ok answer → ∃ results,
      server.results files sent = .ok results ∧
        List.Forall₂ Element.Heads results.anchors (linesOf answer)) ∧
    ∀ failure : Failure, Frame.Carries (octets (Frame.reply failure.reply)) failure.reply := by
  have hanswered (answer : String) (hanswer : server.outcome files sent = .ok answer) :
      ∃ lines results, answer = join "\n" lines ∧ Frame.IsTellable lines ∧
        server.results files sent = .ok results ∧
        List.Forall₂ Element.Heads results.anchors lines := by
    obtain ⟨request, hread, hanswer⟩ := bind_ok_iff.mp hanswer
    unfold Server.results
    rw [hread]
    exact hserver.tellable hfiles hcatalog hanswer
  refine ⟨?_, fun answer hanswer => ?_, Frame.carries_failure⟩
  · rw [connection_eq]
    cases houtcome : server.outcome files sent with
    | error failure => exact Frame.carries_failure failure
    | ok answer =>
      obtain ⟨lines, _, rfl, htellable, _⟩ := hanswered answer houtcome
      exact Frame.carries_reply htellable
  · obtain ⟨lines, results, rfl, htellable, hresults, hheads⟩ := hanswered answer hanswer
    have hlines := linesOf_join htellable.something fun l hl => (htellable.one l hl).one
    exact ⟨results, hresults, hlines.symm ▸ hheads⟩

/-- A server on the directory of the files, asked for the first time. -/
def onDirectory : Server := ⟨⟨".", 64, 5000, .empty⟩, {}⟩

/-- What a client sends that goes on talking. -/
def whatIsJaws : List UInt8 := octets "f\r\nWhat is Jaws ?\nEND\nTHANKS"

theorem isFromDumps_withJaws : (FileTree.withIndex Upkeep.withJaws.index).IsFromDumps := by
  have horder : Upkeep.withJaws.InOrder :=
    Upkeep.history_withJaws.inOrder (Upkeep.inOrder_start Migration.setUp_empty)
  have hdump : FileTree.oneDump.IsFromDumps :=
    FileTree.isFromDumps_empty.set fun _ hd => Content.isFromDumps_octets hd
  refine hdump.set fun d hd => ?_
  obtain rfl : Upkeep.withJaws.index = d := Option.some.inj hd
  exact horder.isFromDumps

theorem one_reply_jaws :
    Frame.readLines (onDirectory.connection (FileTree.withIndex Upkeep.withJaws.index) whatIsJaws).1 =
      (.ok ["m.1: film film"], []) := by
  have houtcome : onDirectory.outcome (FileTree.withIndex Upkeep.withJaws.index) whatIsJaws =
      .ok "m.1: film film" := by
    decide +kernel
  have hserving : onDirectory.Serving := .start rfl
  have hcarries :=
    (one_reply hserving isFromDumps_withJaws Catalog.isPlain_standard whatIsJaws).1
  rw [houtcome] at hcarries
  rw [hcarries.read]
  rfl

end Server

end GraphAnswers
