import BindPlan.Proofs.Template.Stride

namespace BindPlan.Template

open Text

namespace Cursor

/-- The cursor stands behind the front of a text, which the given output was made of. -/
structure Stands (cursor : Cursor) (front output : List Char) : Prop where
  position : cursor.position = byteLength front
  /-- The front is a copied part and one that is still to be copied. -/
  copied : ∃ done pending, front = done ++ pending ∧ cursor.copied = byteLength done ∧
    output = cursor.rewritten.toList ++ pending
  escapes : cursor.position = byteLength output + cursor.escapes

theorem stands_start : start.Stands [] [] :=
  ⟨rfl, ⟨[], [], rfl, rfl, rfl⟩, rfl⟩

/-- A token that is copied as it is. -/
theorem Stands.pass {cursor : Cursor} {front output : List Char} (stands : cursor.Stands front output)
    (part : List Char) (occurrences : List Occurrence) :
    Stands { cursor with position := cursor.position + byteLength part, occurrences := occurrences }
      (front ++ part) (output ++ part) := by
  obtain ⟨done, pending, rfl, copied, rfl⟩ := stands.copied
  refine ⟨?_, ⟨done, pending ++ part, ?_, copied, ?_⟩, ?_⟩
  · rw [byteLength_append, stands.position]
  · rw [List.append_assoc]
  · rw [List.append_assoc]
  · have := stands.escapes
    rw [byteLength_append]
    simp only at *
    omega

/-- Over a token the cursor moves to its end, and an occurrence is recorded for a parameter. -/
theorem advance_token {cursor : Cursor} {front output : List Char} (token : Token)
    (rest : List Char) (stands : cursor.Stands front output) :
    ∃ next, cursor.advance (String.ofList (front ++ (token.source ++ rest))) token.stride = some next ∧
      next.Stands (front ++ token.source) (output ++ token.output) ∧
      next.occurrences = cursor.occurrences ++ occurrencesFrom (byteLength output) [token] := by
  have position := stands.position
  have escapes := stands.escapes
  cases token with
  | region text =>
      refine ⟨_, rfl, stands.pass text cursor.occurrences, ?_⟩
      simp [occurrencesFrom, Token.name?]
  | plain text =>
      refine ⟨_, rfl, stands.pass text cursor.occurrences, ?_⟩
      simp [occurrencesFrom, Token.name?]
  | escapedColon =>
      obtain ⟨done, pending, rfl, copied, rfl⟩ := stands.copied
      have backslash : ('\\' : Char).utf8Size = 1 := rfl
      have colon : (':' : Char).utf8Size = 1 := rfl
      rw [byteLength_append] at position escapes
      have slice : slice? (String.ofList (done ++ pending ++ (Token.source .escapedColon ++ rest)))
          cursor.copied cursor.position = some (String.ofList pending) :=
        slice?_eq rfl copied position
      simp only [Token.stride, advance, slice]
      refine ⟨_, rfl, ⟨?_, ⟨done ++ pending ++ ['\\'], [':'], ?_, ?_, ?_⟩, ?_⟩, ?_⟩
      all_goals simp [Token.source, Token.output, occurrencesFrom, Token.name?, backslash, colon]
      all_goals omega
  | parameter form name =>
      have slice : slice? (String.ofList (front ++ (Token.source (.parameter form name) ++ rest)))
          (cursor.position + form.lead) (cursor.position + form.lead + byteLength name) =
            some (String.ofList name) := by
        have whole : front ++ (Token.source (.parameter form name) ++ rest) =
            front ++ form.opening ++ name ++ (form.closing ++ rest) := by
          simp [Token.source, form.parameterText_eq]
        apply slice?_eq whole
        · rw [byteLength_append, form.byteLength_opening, position]
        · rw [byteLength_append, form.byteLength_opening, position]
      have stop : cursor.position + form.lead + byteLength name + form.trail =
          cursor.position + byteLength (Token.source (.parameter form name)) := by
        rw [← Token.length_stride, Token.stride, Stride.length]
        omega
      simp only [Token.stride, advance, slice]
      refine ⟨_, rfl, ?_, ?_⟩
      · simp only [stop]
        exact stands.pass (Token.source (.parameter form name)) _
      · have start : cursor.position - cursor.escapes = byteLength output := by omega
        have finish : cursor.position + byteLength (Token.source (.parameter form name)) - cursor.escapes =
            byteLength output + byteLength (Token.source (.parameter form name)) := by omega
        simp only [stop, start, finish]
        rfl

theorem run_stride {byte : UInt8} {bytes : List UInt8} {stride : Stride}
    (strides : Stride.next byte bytes = .ok stride) (text : String) (cursor : Cursor) :
    run text cursor (byte :: bytes) = (cursor.advance text stride).bind fun next =>
      run text next ((byte :: bytes).drop stride.length) := by
  rw [run]
  split
  · rename_i fault other
    rw [strides] at other
    cases other
  · rename_i found other
    rw [strides] at other
    cases other
    rfl

/-- Bytes that are not of ASCII are passed over one by one. -/
theorem run_wide {wide : List UInt8} (high : ∀ byte ∈ wide, 128 ≤ byte.toNat) (text : String)
    (cursor : Cursor) (bytes : List UInt8) :
    run text cursor (wide ++ bytes) =
      run text { cursor with position := cursor.position + wide.length } bytes := by
  induction wide generalizing cursor with
  | nil => rfl
  | cons byte wide inductionHypothesis =>
      have position : cursor.position + (wide.length + 1) = cursor.position + 1 + wide.length := by
        omega
      rw [List.cons_append, run_stride (Stride.next_byte (high byte List.mem_cons_self) _),
        List.length_cons, position]
      exact inductionHypothesis (fun other member => high other (.tail _ member)) _

/-- A text that starts with a token is read by the stride over the token. -/
theorem run_token {char : Char} {chars rest : List Char} {token : Token}
    (reads : Token.next char chars = .ok (token, rest)) (text : String) (cursor : Cursor) :
    run text cursor (encode (char :: chars)) =
      (cursor.advance text token.stride).bind fun next => run text next (encode rest) := by
  by_cases narrow : char.toNat < 128
  · have behind := Token.drop_stride reads
    have strides := Stride.next_encode narrow chars
    rw [reads] at strides
    rw [encode_cons, encode_narrow narrow, List.singleton_append] at behind ⊢
    rw [run_stride strides, behind]
  · have high : 128 ≤ char.toNat := by omega
    rw [Stride.next_wide high] at reads
    cases reads
    rw [encode_cons, run_wide (le_of_mem_encode_wide high), String.length_utf8EncodeChar]
    rfl

/-- A text that starts with no token fails at the position of the cursor. -/
theorem run_fault {char : Char} {chars : List Char} {fault : TemplateFault}
    (reads : Token.next char chars = .error fault) (text : String) (cursor : Cursor) :
    run text cursor (encode (char :: chars)) =
      some (.error (.malformedTemplate fault cursor.position)) := by
  have narrow := Stride.narrow_of_fault reads
  have strides := Stride.next_encode narrow chars
  rw [reads] at strides
  rw [encode_cons, encode_narrow narrow, List.singleton_append, run]
  split
  · rename_i found other
    rw [strides] at other
    cases other
    rfl
  · rename_i stride other
    rw [strides] at other
    cases other

/-- What is observed of a cursor at the end. -/
def result (cursor : Cursor) : String × List Occurrence := (cursor.rewritten, cursor.occurrences)

/-- What a cursor makes of its text and the tokens ahead. -/
def made (output : List Char) (occurrences : List Occurrence) (tokens : List Token) :
    String × List Occurrence :=
  (String.ofList (output ++ tokens.flatMap Token.output),
    occurrences ++ occurrencesFrom (byteLength output) tokens)

/-- From a cursor behind the front of a text on, the tokens of the rest are read. -/
theorem run_scan {cursor : Cursor} {front output : List Char} (rest : List Char)
    (stands : cursor.Stands front output) :
    (run (String.ofList (front ++ rest)) cursor (encode rest)).map (·.map result) =
      some ((scan (byteLength front) rest).map (made output cursor.occurrences)) := by
  generalize starts : byteLength front = position
  induction position, rest using scan.induct generalizing cursor front output with
  | case1 position =>
      obtain ⟨done, pending, rfl, copied, rfl⟩ := stands.copied
      have slice : slice? (String.ofList (done ++ pending ++ [])) cursor.copied
          (String.ofList (done ++ pending ++ [])).utf8ByteSize = some (String.ofList pending) := by
        apply slice?_eq rfl copied
        rw [utf8ByteSize_ofList, List.append_nil, byteLength_append]
      rw [encode_nil, run, slice, scan]
      simp [made, result, occurrencesFrom, Except.map]
  | case2 position char chars fault reads =>
      rw [run_fault reads, scan_of_fault reads, stands.position, starts]
      rfl
  | case3 position char chars token rest reads shorter inductionHypothesis =>
      obtain ⟨next, advances, following, recorded⟩ := advance_token token rest stands
      have tail := inductionHypothesis following (by rw [byteLength_append, starts])
      rw [Token.next_append reads] at advances
      rw [List.append_assoc, Token.next_append reads, recorded] at tail
      rw [run_token reads, advances, Option.bind_some, tail, scan_of_next reads]
      -- The token in front contributes its output and, for a parameter, its occurrence.
      have step (tokens : List Token) :
          made (output ++ token.output)
              (cursor.occurrences ++ occurrencesFrom (byteLength output) [token]) tokens =
            made output cursor.occurrences (token :: tokens) := by
        have front := occurrencesFrom_append (byteLength output) [token] tokens
        simp only [List.singleton_append, List.flatMap_cons, List.flatMap_nil, List.append_nil] at front
        simp only [made, front, List.flatMap_cons, List.append_assoc, byteLength_append]
      simp only [funext step]
      cases scan (position + byteLength token.source) rest <;> rfl

/-- Every slice that is taken while a text is read exists, and reading gives the template. -/
theorem read_eq_parse (text : String) :
    read text = some ((parse text).map fun template => (template.rewritten, template.occurrences)) := by
  have whole := run_scan text.toList stands_start
  rw [List.nil_append, String.ofList_toList, ← utf8_eq_encode] at whole
  rw [read]
  refine whole.trans ?_
  rw [parse, byteLength_nil]
  cases scan 0 text.toList with
  | error error => rfl
  | ok tokens => rfl

end Cursor

end BindPlan.Template
