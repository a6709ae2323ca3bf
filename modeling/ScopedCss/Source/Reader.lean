import ScopedCss.Source.Cursor
import ScopedCss.Source.Outline
import ScopedCss.ParseError

/-!
The reader takes a source text token by token to its outline. Its stage says which terminals may
come next, so the text is not cut into tokens beforehand. The first token that no source can go on
with is reported, and so is the first character that starts no token.
-/
namespace ScopedCss.Source

/-- The block that is being read, down to its innermost open rule; items stand latest first. -/
inductive Scope where
  | block (signature : Signature) (items : List Item)
  | rule (head : Token) (items : List Item) (outer : Scope)
deriving Repr

def Scope.add (item : Item) : Scope → Scope
  | .block s items => .block s (item :: items)
  | .rule h items outer => .rule h (item :: items) outer

/-- What has been read of the current block and what may come next. -/
inductive Stage where
  /-- A block may start. -/
  | outside
  | themeVar
  | themeColon (var : Token)
  | themeType (var : Token) (path : List (List Char))
  | themeDot (var : Token) (path : List (List Char))
  | arrow (var : Token) (path : List (List Char))
  | resultType (var : Token) (path : List (List Char))
  | body (signature : Signature)
  /-- An item or the end of the body. -/
  | item (scope : Scope)
  /-- The colon or brace behind a header or property. -/
  | head (token : Token) (scope : Scope)
  /-- A comma or the end of the body. -/
  | separator (scope : Scope)
  /-- The pieces of the value's text stand latest first. -/
  | value (property : Token) (pieces : List (List Char)) (cursor : Cursor) (scope : Scope)
deriving Repr

def Stage.allows : Stage → Terminal → Bool
  | .outside, t => t == .openBrace || t == .openParen
  | .themeVar, t | .themeType _ _, t | .resultType _ _, t => t == .name
  | .themeColon _, t => t == .colon
  | .themeDot _ _, t => t == .dot || t == .closeParen
  | .arrow _ _, t => t == .arrow
  | .body _, t => t == .openBrace
  | .item _, t => t == .name || t == .string || t == .closeBrace
  | .head _ _, t => t == .colon || t == .openBrace
  | .separator _, t => t == .comma || t == .closeBrace
  | .value _ _ c _, t => c.place.allows t

structure Reader where
  /-- Blocks that are read, in order. -/
  done : List Block
  stage : Stage
deriving Repr

namespace Reader

def start : Reader := ⟨[], .outside⟩

/-- Ends the innermost open body. -/
def close (done : List Block) : Scope → Reader
  | .block s items => ⟨done ++ [⟨s, items.reverse⟩], .outside⟩
  | .rule h items outer => ⟨done, .separator (outer.add (.rule h items.reverse))⟩

/-- The names of a dotted path with the dots between them. -/
def dotted (path : List (List Char)) : String := String.ofList (['.'].intercalate path)

/-- The text of a value grows by what stands between its tokens and by the tokens themselves. -/
def extend (pieces : List (List Char)) (gap token : List Char) : List (List Char) :=
  if pieces.isEmpty then [token] else token :: gap :: pieces

/-- The text that pieces standing latest first make up. -/
def joined (pieces : List (List Char)) : List Char := pieces.reverse.flatten

theorem joined_extend {pieces : List (List Char)} (started : pieces ≠ []) (gap token : List Char) :
    joined (extend pieces gap token) = joined pieces ++ gap ++ token := by
  simp [joined, extend, started]

/-- One more token, with the blanks and comments in front of it. -/
def step (r : Reader) (gap : List Char) (t : Token) : Option Reader :=
  let go (s : Stage) : Option Reader := some ⟨r.done, s⟩
  match r.stage, t.terminal with
  | .outside, .openBrace => go (.item (.block {} []))
  | .outside, .openParen => go .themeVar
  | .themeVar, .name => go (.themeColon t)
  | .themeColon v, .colon => go (.themeType v [])
  | .themeType v p, .name => go (.themeDot v (p ++ [t.text]))
  | .themeDot v p, .dot => go (.themeType v p)
  | .themeDot v p, .closeParen => go (.arrow v p)
  | .arrow v p, .arrow => go (.resultType v p)
  | .resultType v p, .name => go (.body {
      themeVar := String.ofList v.text, themeType := dotted p,
      resultType := String.ofList t.text, location := some v.location })
  | .body s, .openBrace => go (.item (.block s []))
  | .item s, .name | .item s, .string => go (.head t s)
  | .item s, .closeBrace => some (close r.done s)
  | .head h s, .colon => go (.value h [] Cursor.start s)
  | .head h s, .openBrace => go (.item (.rule h [] s))
  | .separator s, .comma => go (.item s)
  | .separator s, .closeBrace => some (close r.done s)
  | .value h pieces c s, terminal =>
    match c.next? terminal with
    | some c' => go (.value h (extend pieces gap t.text) c' s)
    | none =>
      if c.isComplete && terminal == .comma then go (.item (s.add (.entry h (joined pieces))))
      else if c.isComplete && terminal == .closeBrace then
        some (close r.done (s.add (.entry h (joined pieces))))
      else none
  | _, _ => none

/-- The source may end behind a block. -/
def isFinished (r : Reader) : Bool :=
  match r.stage with
  | .outside => !r.done.isEmpty
  | _ => false

end Reader

/-- White space between tokens. -/
def isSpace (c : Char) : Bool :=
  c == ' ' || c == '\t' || c == '\x0c' || c == '\r' || c == '\n'

/-- The blanks and comments at the front of a text, and what follows them. A comment runs from a
number sign to the end of its line. -/
def splitGap (inComment : Bool) : List Char → List Char × List Char
  | [] => ([], [])
  | c :: r =>
    if inComment && c != '\n' then
      let p := splitGap true r
      (c :: p.1, p.2)
    else if isSpace c then
      let p := splitGap false r
      (c :: p.1, p.2)
    else if c == '#' then
      let p := splitGap true r
      (c :: p.1, p.2)
    else ([], c :: r)

theorem splitGap_append (b : Bool) (cs : List Char) :
    (splitGap b cs).1 ++ (splitGap b cs).2 = cs := by
  fun_induction splitGap b cs with
  | case1 => rfl
  | case2 _ c r _ p ih => simpa [p] using ih
  | case3 _ c r _ _ p ih => simpa [p] using ih
  | case4 _ c r _ _ _ p ih => simpa [p] using ih
  | case5 => rfl

theorem splitGap_length_le (b : Bool) (cs : List Char) :
    (splitGap b cs).2.length ≤ cs.length := by
  conv => rhs; rw [← splitGap_append b cs]
  simp

/-- What is wrong at the front of a text where none of the allowed terminals starts. -/
def strayFault (c : Char) (cs : List Char) : ParseFault :=
  match scan? (fun _ => true) cs with
  | some cut => .unexpectedToken (String.ofList cut.text)
  | none => .unexpectedChar c

/-- Reads on from a point of the source. `last` is where the latest token started. -/
def readFrom (r : Reader) (last here : Location) (cs : List Char) :
    Except ParseError (List Block) :=
  let gap := (splitGap false cs).1
  let loc := here.after gap
  match _h : (splitGap false cs).2 with
  | [] => if r.isFinished then .ok r.done else .error ⟨.unexpectedEnd, some last⟩
  | c :: rest =>
    match _hc : scan? r.stage.allows (c :: rest) with
    | none => .error ⟨strayFault c (c :: rest), some loc⟩
    | some cut =>
      match r.step gap ⟨cut.terminal, cut.text, loc⟩ with
      | none => .error ⟨.unexpectedToken (String.ofList cut.text), some loc⟩
      | some r' => readFrom r' loc (loc.after cut.text) cut.rest
termination_by cs.length
decreasing_by
  have short := (scan?_of _hc).length_lt
  have := splitGap_length_le false cs
  rw [_h] at this
  omega

/-- The outline of a source text. -/
def outline (cs : List Char) : Except ParseError (List Block) :=
  readFrom Reader.start Location.start Location.start cs

end ScopedCss.Source
