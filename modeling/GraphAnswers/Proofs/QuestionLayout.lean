import GraphAnswers.Proofs.Layout
import GraphAnswers.Proofs.QuestionForms
import GraphAnswers.Proofs.Requests
import GraphAnswers.Server
/-!
# The layout of a question makes no difference

A question is its words.  Blanks and question marks that follow it change none of them, because each
of these characters does not (`Question.words_append_char`); and the words of a question, joined by
spaces, are its words again.  A request has the words of its lines, one line after another, so a
client may lay out a question over lines in any way (`Question.layout_free`), but for one thing: the
word `END` ends the request where it has a line to itself (`Question.cut_off_at_end`).
-/
namespace GraphAnswers

open Text

namespace Question

variable {w : String} {ws : List String}

/-! ### Question marks at the end -/

/-- A word without the question marks at its end. -/
def withoutMarks (word : String) : String := String.ofList (dropEndWhile (· == '?') word.toList)

theorem stripMarks_cons (w : String) (h : ws ≠ []) : stripMarks (w :: ws) = w :: stripMarks ws := by
  rcases ws with _ | ⟨v, ws⟩
  · exact absurd rfl h
  · rfl

/-- Only the last word loses its question marks. -/
theorem stripMarks_concat (ws : List String) (last : String) :
    stripMarks (ws ++ [last]) = ws ++ [withoutMarks last] := by
  induction ws with
  | nil => rfl
  | cons w ws ih =>
    rw [List.cons_append, stripMarks_cons w (by simp), ih]
    rfl

theorem isMarks_append_mark (w : String) : isMarks (w ++ "?") = isMarks w := by
  simp [isMarks]

theorem withoutMarks_append_mark (w : String) : withoutMarks (w ++ "?") = withoutMarks w := by
  unfold withoutMarks
  rw [String.toList_append]
  exact congrArg String.ofList (List.rdropWhile_concat_pos (· == '?') w.toList '?' rfl)

/-- What is left of a word without its question marks is a word, and ends in none. -/
theorem isWord_withoutMarks (h : IsWord w) :
    IsWord (withoutMarks w) ∧ endsIn (withoutMarks w) '?' = false := by
  have hkept : (withoutMarks w).toList = w.toList.rdropWhile (· == '?') := by
    unfold withoutMarks
    rw [String.toList_ofList]
    rfl
  have hne : w.toList.rdropWhile (· == '?') ≠ [] := by
    intro hnil
    have hmarks : isMarks w = true := List.all_eq_true.mpr (List.rdropWhile_eq_nil_iff.mp hnil)
    rw [h.notMarks] at hmarks
    cases hmarks
  have hlast : (w.toList.rdropWhile (· == '?')).getLast hne ≠ '?' := by
    simpa using List.rdropWhile_last_not (· == '?') w.toList hne
  refine ⟨⟨fun c hc => ?_, ?_⟩, ?_⟩
  · rw [hkept] at hc
    exact h.solid c ((List.rdropWhile_prefix _ _).subset hc)
  · refine isMarks_eq_false (c := (w.toList.rdropWhile (· == '?')).getLast hne) ?_ hlast
    rw [hkept]
    exact List.getLast_mem hne
  · unfold endsIn
    rw [hkept, List.getLast?_eq_some_getLast hne]
    simpa using hlast

/-- **The words of a question are words that it can be put together from again**: each is one, and no
question mark stands at the end. -/
theorem isWord_of_mem_words {question : String} :
    (∀ w ∈ words question, IsWord w) ∧ EndsPlainly (words question) := by
  have hkept : ∀ w ∈ (Text.words question).filter fun w => !isMarks w, IsWord w := by
    intro w hw
    obtain ⟨hw, hmarks⟩ := List.mem_filter.mp hw
    exact ⟨(Text.isWord_of_mem_words hw).solid, by simpa using hmarks⟩
  unfold words
  rcases List.eq_nil_or_concat' ((Text.words question).filter fun w => !isMarks w) with
    hnil | ⟨front, last, heq⟩
  · rw [hnil]
    simp [stripMarks, EndsPlainly]
  · rw [heq] at hkept ⊢
    obtain ⟨hlast, hend⟩ := isWord_withoutMarks (hkept last (by simp))
    rw [stripMarks_concat]
    constructor
    · intro w hw
      rcases List.mem_append.mp hw with hw | hw
      · exact hkept w (List.mem_append_left _ hw)
      · rw [List.mem_singleton.mp hw]
        exact hlast
    · intro w hw
      rw [List.getLast?_concat] at hw
      cases hw
      exact hend

/-! ### What makes no difference -/

/-- A question mark after a question is dropped, whether it stands alone, follows other marks or is
glued to a word. -/
theorem words_append_mark (question : String) : words (question ++ "?") = words question := by
  obtain ⟨before, last, hwords, hmarked⟩ := wordsOf_concat (c := '?') (by decide) question.toList
  have hplain : Text.words question =
      before.map String.ofList ++ ([last].filter (!·.isEmpty)).map String.ofList := by
    rw [Text.words, hwords, List.map_append]
  have hlonger : Text.words (question ++ "?") =
      before.map String.ofList ++ [String.ofList last ++ "?"] := by
    rw [Text.words, String.toList_append]
    show (wordsOf (question.toList ++ ['?'])).map String.ofList = _
    rw [hmarked, List.map_append, List.map_singleton, String.ofList_append]
  unfold words
  rw [hplain, hlonger, List.filter_append, List.filter_append]
  by_cases hmarks : isMarks (String.ofList last) = true
  · -- nothing but question marks: neither with the new one nor without it is it a word
    have hone : [String.ofList last ++ "?"].filter (fun w => !isMarks w) = [] := by
      simp [isMarks_append_mark, hmarks]
    have hnone : (([last].filter (!·.isEmpty)).map String.ofList).filter (fun w => !isMarks w) = [] := by
      refine List.filter_eq_nil_iff.mpr fun w hw => ?_
      obtain ⟨piece, hpiece, rfl⟩ := List.mem_map.mp hw
      rw [List.mem_singleton.mp (List.mem_of_mem_filter hpiece), hmarks]
      simp
    rw [hone, hnone]
  · have hne : last ≠ [] := by
      rintro rfl
      exact hmarks rfl
    have hone : [String.ofList last ++ "?"].filter (fun w => !isMarks w) =
        [String.ofList last ++ "?"] := by
      simp [isMarks_append_mark, hmarks]
    have hword : (([last].filter (!·.isEmpty)).map String.ofList).filter (fun w => !isMarks w) =
        [String.ofList last] := by
      simp [hne, hmarks]
    rw [hone, hword, stripMarks_concat, stripMarks_concat, withoutMarks_append_mark]

/-- A question is its words. -/
theorem words_congr {question other : String} (h : Text.words question = Text.words other) :
    words question = words other := by
  unfold words
  rw [h]

/-- **A blank or a question mark at the end of a question makes no difference.** -/
theorem words_append_char (question : String) {c : Char} (h : isBlank c = true ∨ c = '?') :
    words (question ++ String.ofList [c]) = words question := by
  rcases h with hblank | rfl
  · refine words_congr ?_
    have hmargin : IsMargin [c] := by simpa [IsMargin] using hblank
    rw [Text.words, String.toList_append, String.toList_ofList, wordsOf_append_margin hmargin]
    rfl
  · exact words_append_mark question

/-- Nor do any number of them. -/
theorem words_append_closing (question : String) {suffix : String}
    (h : ∀ c ∈ suffix.toList, isBlank c = true ∨ c = '?') :
    words (question ++ suffix) = words question := by
  rw [← String.ofList_toList (s := suffix)]
  generalize suffix.toList = cs at h
  induction cs generalizing question with
  | nil => simp
  | cons c cs ih =>
    have hsplit : question ++ String.ofList (c :: cs) =
        question ++ String.ofList [c] ++ String.ofList cs := by
      rw [String.append_assoc, ← String.ofList_append]
      rfl
    rw [hsplit, ih _ fun d hd => h d (List.mem_cons_of_mem c hd),
      words_append_char question (h c List.mem_cons_self)]

/-- The words of a question, joined by spaces, are its words. -/
theorem words_unwords_words (question : String) :
    words (unwords (words question)) = words question := by
  by_cases hnil : words question = []
  · rw [hnil]
    rfl
  · exact (words_sentence hnil isWord_of_mem_words.1 isWord_of_mem_words.2).1

end Question

/-! ### Requests and their answers -/

/-- **What a client may send for a message**: the message and anything after it, or a message that
ends with the input. -/
inductive Frame.Message.Opens (m : Message) : List UInt8 → Prop
  | closed (rest : List UInt8) : Opens m (m.octets ++ rest)
  | cutOff {sent : List UInt8} (h : m.IsCutOff sent) : Opens m sent

namespace Frame

theorem readRequest_opens {m : Message} {sent : List UInt8} (h : m.Opens sent) :
    (readRequest sent).1 = .ok m.request := by
  cases h with
  | closed rest => rw [readRequest_message]
  | cutOff h => rw [readRequest_cutOff h]

/-- **The words of a request are those of its lines**, one line after another. -/
theorem words_ofLines {first : String} (h : ∃ c ∈ first.toList, isBlank c = false)
    (rest : List String) :
    ∃ request, ofLines (first :: rest) = .ok request ∧ request.index = trim first ∧
      Text.words request.question = rest.flatMap Text.words := by
  refine ⟨⟨trim first, String.join (rest.map questionLine)⟩, ?_, rfl, words_lines rest⟩
  simp [ofLines, isEmpty_trim h]

theorem words_request (m : Message) :
    Text.words m.request.question = m.others.flatMap fun l => Text.words l.text := by
  have hlines := words_lines (m.others.map Line.text)
  rw [List.map_map, List.flatMap_map] at hlines
  exact hlines

end Frame

theorem Server.connection_opens {m : Frame.Message} {sent : List UInt8} (h : m.Opens sent)
    (server : Server) (files : FileTree) :
    server.connection files sent =
      (octets (Frame.reply (server.reply files m.request).1), (server.reply files m.request).2) := by
  unfold connection
  rw [Frame.readRequest_opens h]

/-- Questions of the same words have the same reply, whatever the server remembers. -/
theorem Server.reply_congr {question other : String}
    (h : Question.words question = Question.words other) (server : Server) (files : FileTree)
    (index : String) :
    server.reply files ⟨index, question⟩ = server.reply files ⟨index, other⟩ := by
  have hanswer : server.engine.answer question = server.engine.answer other := by
    unfold Engine.answer Engine.answerIn Engine.queryIn Question.template
    rw [h]
  unfold reply answer
  dsimp only
  rw [hanswer]

namespace Question

/-- **The layout of a question makes no difference.**  What follows it, blanks and question marks,
does not change its words; its words, joined by spaces, are its words again; and a request has the
words of its lines.  So when a client lays a question out over lines, breaking it between words, with
any line ends and margins, the request that is read has the words of the question, and the client is
sent what the server replies to the question. -/
theorem layout_free :
    (∀ question suffix : String, (∀ c ∈ suffix.toList, isBlank c = true ∨ c = '?') →
      words (question ++ suffix) = words question) ∧
    (∀ question, words (unwords (words question)) = words question) ∧
    (∀ first rest, (∃ c ∈ first.toList, isBlank c = false) →
      ∃ request, Frame.ofLines (first :: rest) = .ok request ∧ request.index = trim first ∧
        words request.question = words (unwords rest)) ∧
    ∀ (m : Frame.Message) sent question, m.Opens sent →
      m.others.flatMap (fun l => Text.words l.text) = Text.words question →
      (∃ request, (Frame.readRequest sent).1 = .ok request ∧ request.index = trim m.first.text ∧
        words request.question = words question) ∧
      ∀ (server : Server) files, server.connection files sent =
        (octets (Frame.reply (server.reply files ⟨trim m.first.text, question⟩).1),
          (server.reply files ⟨trim m.first.text, question⟩).2) := by
  refine ⟨fun question suffix => words_append_closing question, words_unwords_words,
    fun first rest hfirst => ?_, fun m sent question hsent hlines => ?_⟩
  · obtain ⟨request, hread, hindex, hwords⟩ := Frame.words_ofLines hfirst rest
    exact ⟨request, hread, hindex,
      words_congr (hwords.trans (words_unwords_eq_flatMap rest).symm)⟩
  · have hwords : words m.request.question = words question :=
      words_congr ((Frame.words_request m).trans hlines)
    refine ⟨⟨m.request, Frame.readRequest_opens hsent, rfl, hwords⟩, fun server files => ?_⟩
    have hreply : server.reply files m.request = server.reply files ⟨trim m.first.text, question⟩ :=
      Server.reply_congr hwords server files _
    rw [Server.connection_opens hsent, hreply]

/-- A server on a directory without indexes. -/
def bareServer : Server := ⟨{ root := "indexes", capacity := 1 }, {}⟩

theorem layout_free_jaws :
    words "What is Jaws?? \t?" = ["What", "is", "Jaws"] ∧
      (∃ request, Frame.ofLines ["films ", "  What is", "", "Jaws ?  "] = .ok request ∧
        request.index = "films" ∧ words request.question = ["What", "is", "Jaws"]) ∧
      bareServer.connection .empty (octets " films \r\nWhat is\n\tJaws ?\r\r\nEND\r\nthanks\n") =
        (octets (Frame.reply (bareServer.reply .empty ⟨"films", "What is Jaws ?"⟩).1),
          (bareServer.reply .empty ⟨"films", "What is Jaws ?"⟩).2) := by
  obtain ⟨hclosing, _, hlines, hsent⟩ := layout_free
  have hread : words "What is Jaws" = ["What", "is", "Jaws"] := by decide
  refine ⟨?_, ?_, ?_⟩
  · rw [← hread, ← hclosing "What is Jaws" "?? \t?" (by simp [isBlank])]
    rfl
  · obtain ⟨request, hok, hindex, hwords⟩ :=
      hlines "films " ["  What is", "", "Jaws ?  "] ⟨'f', by decide, by decide⟩
    exact ⟨request, hok, hindex, hwords.trans (by decide)⟩
  · have hoctets : octets " films \r\nWhat is\n\tJaws ?\r\r\nEND\r\nthanks\n" =
        Frame.whatIsJawsPadded.octets ++ octets "thanks\n" := by decide +kernel
    rw [hoctets]
    exact (hsent Frame.whatIsJawsPadded _ "What is Jaws ?" (.closed (octets "thanks\n"))
      (by decide)).2 bareServer .empty

/-- The first line of a question that is broken before its last word. -/
def whatIsThe : Frame.Message :=
  { Frame.whatIsJaws with others := [⟨"What is The", .lf, by decide, by decide⟩] }

/-- **A question is cut off at a line of its own for the word `END`.**  The rest of it is left on the
connection, and what is read is another question. -/
theorem cut_off_at_end :
    ["What is The", "END"].flatMap Text.words = Text.words "What is The END" ∧
      Frame.readRequest (octets "films\nWhat is The\nEND\nEND\n") =
        (.ok ⟨"films", "What is The\n"⟩, octets "END\n") ∧
      template "What is The\n" = .ok (.typeOf "The" .nonPersons) ∧
      template "What is The END" = .ok (.typeOf "The END" .nonPersons) := by
  have hoctets : octets "films\nWhat is The\nEND\nEND\n" = whatIsThe.octets ++ octets "END\n" := by
    decide +kernel
  have hrequest : whatIsThe.request = ⟨"films", "What is The\n"⟩ := by decide +kernel
  refine ⟨by decide, ?_, rfl, rfl⟩
  rw [hoctets, Frame.readRequest_message, hrequest]

end Question

end GraphAnswers
