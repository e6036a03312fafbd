import GraphAnswers.Proofs.Margins
import GraphAnswers.Proofs.Octets
import GraphAnswers.Server.Frame
/-!
# Requests come back from a connection

A client sends messages one after another: lines, each with an end that may be led by a carriage
return, and after them a line `END`.  Reading gives the request of a message and leaves what follows
it, whatever that is, so that messages are read one by one (`Frame.requests_come_back`).  The last
message may be left open: where the input ends, so do its lines.
-/
namespace GraphAnswers.Frame

open Text

/-! ### Messages -/

/-- How a line may end. -/
inductive Ending where
  | lf
  | crlf
  deriving DecidableEq, Repr

def Ending.text : Ending → String
  | lf => "\n"
  | crlf => "\r\n"

/-- What counts of a line: carriage returns at its end do not. -/
def content (line : String) : String := String.ofList (dropEndWhile (· == '\r') line.toList)

/-- A line of a message. -/
structure Line where
  text : String
  ending : Ending
  isOne : '\n' ∉ text.toList
  /-- It does not end the message. -/
  goesOn : content text ≠ terminator

/-- What a client sends for one request. -/
structure Message where
  first : Line
  others : List Line
  /-- How the line ends that ends the message. -/
  ending : Ending
  /-- The first line names an index. -/
  names : ∃ c ∈ first.text.toList, isBlank c = false

def Line.octets (l : Line) : List UInt8 := Text.octets (l.text ++ l.ending.text)

namespace Message

/-- The request that a message is about. -/
def request (m : Message) : Request where
  index := trim m.first.text
  question := String.join (m.others.map fun l => trim l.text ++ "\n")

/-- The octets of the lines, without the one that ends the message. -/
def lineOctets (m : Message) : List UInt8 := (m.first :: m.others).flatMap Line.octets

/-- The octets of a message. -/
def octets (m : Message) : List UInt8 := m.lineOctets ++ Text.octets (terminator ++ m.ending.text)

/-- **A message that ends with the input**: nothing follows its last line, which may lack its end as
well, unless nothing would be left of it then. -/
inductive IsCutOff (m : Message) : List UInt8 → Prop
  | afterEnding : IsCutOff m m.lineOctets
  | inLine {before : List Line} {last : Line} (split : m.first :: m.others = before ++ [last])
      (something : last.text ≠ "") :
      IsCutOff m (before.flatMap Line.octets ++ Text.octets last.text)

end Message

/-- Reads a number of requests, one after another. -/
def readRequests : Nat → List UInt8 → List (Except Failure Request) × List UInt8
  | 0, octets => ([], octets)
  | n + 1, octets =>
    let (request, unread) := readRequest octets
    let (requests, rest) := readRequests n unread
    (request :: requests, rest)

/-! ### One line -/

variable {s : String} {rest : List UInt8}

theorem bne_newline_of_mem_octets (h : '\n' ∉ s.toList) : ∀ o ∈ octets s, (o != 10) = true := by
  intro o ho
  rw [bne_iff_ne]
  rintro rfl
  exact h (newline_mem_octets.mp ho)

/-- Octets are cut at the first end of line. -/
theorem firstLine_append (h : '\n' ∉ s.toList) (rest : List UInt8) :
    firstLine (octets s ++ 10 :: rest) = (octets s, rest) := by
  have hall := bne_newline_of_mem_octets h
  unfold firstLine
  rw [List.takeWhile_append_of_pos hall, List.dropWhile_append_of_pos hall]
  simp

theorem firstLine_octets (h : '\n' ∉ s.toList) : firstLine (octets s) = (octets s, []) := by
  have hall := bne_newline_of_mem_octets h
  unfold firstLine
  rw [List.takeWhile_eq_self_iff.mpr hall, List.dropWhile_eq_nil_iff.mpr hall]
  rfl

/-- **What one line comes to**: it ends the lines, or it comes before those that follow. -/
theorem readLines_line (h : '\n' ∉ s.toList) (rest : List UInt8) :
    readLines (octets s ++ 10 :: rest) =
      if content s = terminator then (.ok [], rest)
      else ((readLines rest).1.map (content s :: ·), (readLines rest).2) := by
  rw [readLines, dif_neg (by simp), firstLine_append h]
  dsimp only
  rw [ofOctets?_octets]
  rfl

/-- The last line need not have an end. -/
theorem readLines_lastLine (h : '\n' ∉ s.toList) (hs : s ≠ "") :
    readLines (octets s) = (.ok (if content s = terminator then [] else [content s]), []) := by
  have hne : octets s ≠ [] := by
    intro hnil
    have hempty := ofOctets?_octets s
    rw [hnil, ← octets_empty, ofOctets?_octets] at hempty
    exact hs (Option.some.inj hempty).symm
  rw [readLines, dif_neg hne, firstLine_octets h]
  dsimp only
  rw [ofOctets?_octets, readLines, dif_pos rfl]
  show (if content s = terminator then _ else _) = _
  by_cases hc : content s = terminator
  · rw [if_pos hc, if_pos hc]
  · rw [if_neg hc, if_neg hc]
    rfl

theorem content_append_cr (s : String) : content (s ++ "\r") = content s := by
  unfold content dropEndWhile
  rw [String.toList_append, List.reverse_append]
  rfl

/-- A carriage return before the end of a line makes no difference. -/
theorem readLines_ended (h : '\n' ∉ s.toList) (ending : Ending) (rest : List UInt8) :
    readLines (octets (s ++ ending.text) ++ rest) =
      if content s = terminator then (.ok [], rest)
      else ((readLines rest).1.map (content s :: ·), (readLines rest).2) := by
  cases ending with
  | lf =>
    rw [Ending.text, octets_append, octets_newline, List.append_assoc]
    exact readLines_line h rest
  | crlf =>
    have hcr : '\n' ∉ (s ++ "\r").toList := by simpa using h
    have hsplit : s ++ "\r\n" = s ++ "\r" ++ "\n" := by rw [String.append_assoc]; rfl
    rw [Ending.text, hsplit, octets_append, octets_newline, List.append_assoc, ← content_append_cr s]
    exact readLines_line hcr rest

/-! ### The lines of a message -/

/-- Lines are read off in front of whatever follows. -/
theorem readLines_lines (lines : List Line) (rest : List UInt8) :
    readLines (lines.flatMap Line.octets ++ rest) =
      ((readLines rest).1.map (lines.map (fun l => content l.text) ++ ·), (readLines rest).2) := by
  induction lines with
  | nil =>
    show readLines rest = _
    cases h : (readLines rest).1 <;> simp [Prod.ext_iff, h, Except.map]
  | cons l lines ih =>
    rw [List.flatMap_cons, List.append_assoc, Line.octets, readLines_ended l.isOne,
      if_neg l.goesOn, ih]
    cases h : (readLines rest).1 <;> simp [Except.map]

theorem readLines_terminator (ending : Ending) (rest : List UInt8) :
    readLines (Text.octets (terminator ++ ending.text) ++ rest) = (.ok [], rest) := by
  rw [readLines_ended (by decide), if_pos (by decide)]

theorem trim_content (s : String) : trim (content s) = trim s := by
  unfold trim content
  rw [String.toList_ofList]
  -- a carriage return is blank, so what is dropped is part of the margin
  obtain ⟨trail, hblank, hsplit⟩ : ∃ trail, IsMargin trail ∧
      s.toList = dropEndWhile (· == '\r') s.toList ++ trail := by
    refine ⟨(s.toList.reverse.takeWhile (· == '\r')).reverse, fun c hc => ?_, ?_⟩
    · have := List.mem_takeWhile_imp (List.mem_reverse.mp hc)
      rw [beq_iff_eq.mp this]
      decide
    · unfold dropEndWhile
      rw [← List.reverse_append, List.takeWhile_append_dropWhile, List.reverse_reverse]
  have hmargin : IsMargin [] := fun c hc => by cases hc
  have := trimmed_append hmargin hblank (dropEndWhile (· == '\r') s.toList)
  rw [List.nil_append, ← hsplit] at this
  rw [this]

/-- The lines of a message make up its request. -/
theorem ofLines_message (m : Message) :
    ofLines ((m.first :: m.others).map fun l => content l.text) = .ok m.request := by
  unfold ofLines Message.request
  rw [List.map_cons]
  dsimp only
  rw [trim_content, isEmpty_trim m.names, List.map_map]
  simp only [Function.comp_def, questionLine, trim_content]
  rfl

/-! ### Messages one after another -/

/-- **A message is read as its request**, and what follows it is left. -/
theorem readRequest_message (m : Message) (rest : List UInt8) :
    readRequest (m.octets ++ rest) = (.ok m.request, rest) := by
  unfold readRequest Message.octets Message.lineOctets
  rw [List.append_assoc, readLines_lines, readLines_terminator]
  dsimp only [Except.map, Except.bind]
  rw [List.append_nil, ofLines_message]

/-- A message that ends with the input is read as well. -/
theorem readRequest_cutOff {m : Message} {octets : List UInt8} (h : m.IsCutOff octets) :
    readRequest octets = (.ok m.request, []) := by
  have hnone : readLines [] = (.ok [], []) := by rw [readLines, dif_pos rfl]
  unfold readRequest
  cases h with
  | afterEnding =>
    unfold Message.lineOctets
    rw [← List.append_nil (List.flatMap _ _), readLines_lines, hnone]
    dsimp only [Except.map, Except.bind]
    rw [List.append_nil, ofLines_message]
  | @inLine before last split something =>
    rw [readLines_lines, readLines_lastLine last.isOne something, if_neg last.goesOn]
    dsimp only [Except.map, Except.bind]
    rw [← ofLines_message, split, List.map_append]
    rfl

theorem readRequests_messages (messages : List Message) (n : Nat) (rest : List UInt8) :
    readRequests (messages.length + n) (messages.flatMap Message.octets ++ rest) =
      (messages.map (fun m => .ok m.request) ++ (readRequests n rest).1, (readRequests n rest).2) := by
  induction messages with
  | nil => simp
  | cons m messages ih =>
    rw [List.length_cons, Nat.add_right_comm, readRequests, List.flatMap_cons, List.append_assoc,
      readRequest_message]
    dsimp only
    rw [ih]
    rfl

/-- **Requests come back from a connection.**  A message is read as its request, and exactly what
follows it is left, be it text or not.  So any messages are read back one by one, in order; and the
last one is also read if the input ends where it should have been ended. -/
theorem requests_come_back (messages : List Message) (last : Message) (rest : List UInt8) :
    readRequest (last.octets ++ rest) = (.ok last.request, rest) ∧
    readRequests messages.length (messages.flatMap Message.octets ++ rest) =
      (messages.map fun m => .ok m.request, rest) ∧
    ∀ cut, last.IsCutOff cut →
      readRequests (messages.length + 1) (messages.flatMap Message.octets ++ cut) =
        (messages.map (fun m => .ok m.request) ++ [.ok last.request], []) := by
  refine ⟨readRequest_message last rest, ?_, fun cut hcut => ?_⟩
  · have := readRequests_messages messages 0 rest
    rwa [Nat.add_zero, readRequests, List.append_nil] at this
  · rw [readRequests_messages, readRequests, readRequest_cutOff hcut]
    rfl

/-- A question in one line. -/
def whatIsJaws : Message where
  first := ⟨"films", .lf, by decide, by decide⟩
  others := [⟨"What is Jaws ?", .lf, by decide, by decide⟩]
  ending := .lf
  names := ⟨'f', by decide, by decide⟩

/-- The same with padding, over two lines. -/
def whatIsJawsPadded : Message where
  first := ⟨" films ", .crlf, by decide, by decide⟩
  others := [⟨"What is", .lf, by decide, by decide⟩, ⟨"\tJaws ?\r", .crlf, by decide, by decide⟩]
  ending := .crlf
  names := ⟨'f', by decide, by decide⟩

/-- The second message lacks its last two line ends. -/
theorem requests_come_back_jaws :
    readRequests 2 (octets " films \r\nWhat is\n\tJaws ?\r\r\nEND\r\nfilms\nWhat is Jaws ?") =
      ([.ok ⟨"films", "What is\nJaws ?\n"⟩, .ok ⟨"films", "What is Jaws ?\n"⟩], []) := by
  have hlines : whatIsJaws.first :: whatIsJaws.others =
      [whatIsJaws.first] ++ [⟨"What is Jaws ?", .lf, by decide, by decide⟩] := rfl
  have hcut := Message.IsCutOff.inLine hlines (by decide)
  have hread := (requests_come_back [whatIsJawsPadded] whatIsJaws []).2.2 _ hcut
  have hsent : [whatIsJawsPadded].flatMap Message.octets ++
      ([whatIsJaws.first].flatMap Line.octets ++ octets "What is Jaws ?") =
      octets " films \r\nWhat is\n\tJaws ?\r\r\nEND\r\nfilms\nWhat is Jaws ?" := by
    decide +kernel
  have hrequests : whatIsJawsPadded.request = ⟨"films", "What is\nJaws ?\n"⟩ ∧
      whatIsJaws.request = ⟨"films", "What is Jaws ?\n"⟩ := by
    decide +kernel
  rw [← hsent, ← hrequests.1, ← hrequests.2]
  exact hread

end GraphAnswers.Frame
