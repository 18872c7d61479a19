import Conch.Sh.Syntax
/-!
Reading scripts: tokens and the grammar.

The script is read as bytes, each byte standing as the character of the same code. A
backslash right before a line feed joins two lines and vanishes wherever it stands outside
single quotes and quoted here-documents. The reader hands out one complete command at a time:
a script is run command by command, so a syntax error further down does not stop the commands
before it.

Words are read in contexts: a command word ends at a blank, an operator or a line feed; double
quotes end at the closing quote; the word of `${name op word}` ends at the closing brace; an
arithmetic expansion ends at the `))` that closes it. A reserved word is recognised only where
the grammar allows one and only when it is spelled with plain unquoted text. Here-documents are
read at the line feed that ends the line they were announced on, and are put in place once the
command is complete.

Every function of the reader takes a fuel argument first and passes its predecessor on, so the
whole grammar is structural recursion; the fuel given is a multiple of the input length, so it
does not run out on any input.
-/

namespace Conch.Sh

/-- The byte a character of the script stands for. -/
def byteOf (c : Char) : UInt8 := c.toNat.toUInt8

/-- The character a byte is read as. -/
def charOf (b : UInt8) : Char := Char.ofNat b.toNat

/-- The bytes of a text written in the program. -/
def bytesOf (s : String) : Bytes := s.toUTF8.toList

/-- Letters and the underscore: the characters a name starts with. -/
def isNameStart (c : Char) : Bool :=
  ('a' ≤ c && c ≤ 'z') || ('A' ≤ c && c ≤ 'Z') || c == '_'

/-- Decimal digits. -/
def isDigitChar (c : Char) : Bool := '0' ≤ c && c ≤ '9'

/-- The characters of a name. -/
def isNameChar (c : Char) : Bool := isNameStart c || isDigitChar c

/-- The names of the special parameters. -/
def isSpecialParam (c : Char) : Bool := "!#$*-?@".contains c

/-- Whether a text is a name: a letter or underscore, then letters, digits and underscores. -/
def isName (cs : List Char) : Bool :=
  match cs with
  | c :: rest => isNameStart c && rest.all isNameChar
  | [] => false

/-- The characters that end a command word. -/
def isDelimiter (c : Char) : Bool := " \t\n;&|()<>".contains c

/-- The builtins a function may not be named after. -/
def specialBuiltins : List String :=
  [".", ":", "break", "continue", "eval", "exec", "exit", "export", "local", "readonly",
    "return", "set", "shift", "times", "trap", "unset"]

/-- Drops the line joins at the front of a text, counting the lines they join. -/
def dropJoins : List Char → Nat → List Char × Nat
  | '\\' :: '\n' :: rest, n => dropJoins rest (n + 1)
  | cs, n => (cs, n)

/-- The longest front of a text whose characters satisfy `p`, read across line joins, the rest,
and the number of lines joined. -/
def spanJoined (p : Char → Bool) : List Char → Nat → List Char → List Char × List Char × Nat
  | '\\' :: '\n' :: rest, n, acc => spanJoined p rest (n + 1) acc
  | c :: rest, n, acc =>
    if p c then spanJoined p rest n (c :: acc) else (acc.reverse, c :: rest, n)
  | [], n, acc => (acc.reverse, [], n)

/-- Reserved words. -/
inductive Keyword
  | bang | caseKw | doKw | doneKw | elifKw | elseKw | esacKw | fiKw | forKw | ifKw | inKw
  | thenKw | untilKw | whileKw | openBrace | closeBrace
  deriving DecidableEq, Repr

namespace Keyword

/-- How a reserved word is spelled. -/
def text : Keyword → String
  | bang => "!"
  | caseKw => "case"
  | doKw => "do"
  | doneKw => "done"
  | elifKw => "elif"
  | elseKw => "else"
  | esacKw => "esac"
  | fiKw => "fi"
  | forKw => "for"
  | ifKw => "if"
  | inKw => "in"
  | thenKw => "then"
  | untilKw => "until"
  | whileKw => "while"
  | openBrace => "\x7b"
  | closeBrace => "\x7d"

/-- All reserved words. -/
def all : List Keyword :=
  [bang, caseKw, doKw, doneKw, elifKw, elseKw, esacKw, fiKw, forKw, ifKw, inKw, thenKw, untilKw,
    whileKw, openBrace, closeBrace]

/-- The reserved word a text spells, if any. -/
def ofBytes? (bs : Bytes) : Option Keyword := all.find? fun k => bytesOf k.text == bs

/-- The reserved words that close a list of commands. -/
def endsList : Keyword → Bool
  | doKw | doneKw | elifKw | elseKw | esacKw | fiKw | thenKw | closeBrace => true
  | _ => false

end Keyword

/-- The head of a redirection: the descriptor it acts on and what it does. -/
inductive RedirHead
  | file (fd : Nat) (op : FileOp)
  | dup (fd : Nat) (input : Bool)
  | here (fd : Nat) (strip : Bool)

/-- A token. -/
inductive Tok
  | eof | newline | semi | amp | andIf | orIf | bar | lparen | rparen | dsemi
  | redir (h : RedirHead)
  /-- A word, its text when it is made of plain unquoted text only, and whether any of it is
  quoted. -/
  | word (w : Word) (plain : Option Bytes) (quoted : Bool)
  | kw (k : Keyword)

namespace Tok

/-- How a token is named in syntax errors. -/
def name : Tok → String
  | eof => "end of file"
  | newline => "newline"
  | semi => "\";\""
  | amp => "\"&\""
  | andIf => "\"&&\""
  | orIf => "\"||\""
  | bar => "\"|\""
  | lparen => "\"(\""
  | rparen => "\")\""
  | dsemi => "\";;\""
  | redir _ => "redirection"
  | word .. => "word"
  | kw k => "\"" ++ k.text ++ "\""

/-- The tokens that close a list of commands. -/
def endsList : Tok → Bool
  | eof | rparen | dsemi => true
  | kw k => k.endsList
  | _ => false

/-- The token a word makes. -/
def ofWord (w : Word) : Tok :=
  let quoted := w.any fun s => match s with
    | .quoted _ | .dq _ => true
    | _ => false
  let plain := match w with
    | [.lit bs] => some bs
    | _ => none
  .word w plain quoted

/-- The token read as a reserved word when it spells one. -/
def asKeyword : Tok → Tok
  | word w (some p) false =>
    match Keyword.ofBytes? p with
    | some k => kw k
    | none => word w (some p) false
  | t => t

end Tok

/-- What the grammar expects of the next token: whether line feeds before it are skipped,
whether it is read as a reserved word when it spells one, whether it is the delimiter of a
here-document, where `$` is plain text, and whether it may be an alias, as where a command's name
may stand. -/
structure Want where
  skipLines : Bool
  keyword : Bool
  delimiter : Bool
  aliasable : Bool

namespace Want

/-- A token as it comes. -/
def plain : Want := ⟨false, false, false, false⟩

/-- A token that may be a reserved word. -/
def word : Want := ⟨false, true, false, false⟩

/-- A token that may be a reserved word, after any number of line feeds. -/
def lines : Want := ⟨true, true, false, false⟩

/-- The delimiter of a here-document. -/
def mark : Want := ⟨false, false, true, false⟩

/-- A token that may be an alias. -/
def aliased : Want := ⟨false, false, false, true⟩

/-- The first token of a command: a reserved word or an alias. -/
def command : Want := ⟨false, true, false, true⟩

/-- The first token of a command after any number of line feeds. -/
def commandLines : Want := ⟨true, true, false, true⟩

end Want

/-- A here-document waiting for its body: the delimiter, whether leading tabs are stripped, and
whether the body is expanded. -/
structure HereSpec where
  mark : List Char
  strip : Bool
  expand : Bool

/-- A syntax error: the line it was found on and what is wrong. -/
structure SynErr where
  line : Nat
  msg : String

/-- The state of the reader: the text left, the current line, a token put back, the last token
read, the here-documents waiting for their bodies and the bodies read but not yet placed, the
aliases in force, and the aliases whose text is being read. -/
structure Reader where
  rest : List Char
  line : Nat
  back : Option Tok
  last : Tok
  pending : List HereSpec
  bodies : List Word
  aliases : List (String × String) := []
  /-- An alias whose text was put in front of the text left: its name, the length of the text
  after its own, and whether its text ends with a blank. It is in use, and not expanded again,
  until a word ends past its text. -/
  inUse : List (String × Nat × Bool) := []

namespace Reader

/-- A reader at the start of a text, on the given line. -/
def start (text : List Char) (line : Nat) : Reader :=
  { rest := text, line := line, back := none, last := .eof, pending := [], bodies := [] }

/-- Whether the next word follows the text of an alias that ends with a blank, which makes
that word a candidate for an alias too. -/
def afterBlankAlias (r : Reader) : Bool :=
  r.inUse.any fun (_, after, blank) =>
    blank && after ≤ r.rest.length &&
      (r.rest.take (r.rest.length - after)).all fun c => c == ' ' || c == '\t'

/-- The reader with the text of the alias a word names put in front of the text left, when the
word names an alias that is not in use. -/
def expandAlias (r : Reader) (name : String) : Option Reader :=
  match r.aliases.lookup name with
  | none => none
  | some value =>
    let busy := r.inUse.any fun (n, after, _) => n == name && after ≤ r.rest.length
    if busy then none
    else
      let live := r.inUse.filter fun (_, after, _) => after ≤ r.rest.length
      let blank := value.endsWith " " || value.endsWith "\t"
      some { r with rest := value.toList ++ r.rest, inUse := (name, r.rest.length, blank) :: live }

/-- The reader past the line joins in front of it. -/
def joined (r : Reader) : Reader :=
  let (rest, n) := dropJoins r.rest 0
  { r with rest := rest, line := r.line + n }

/-- The reader past one character. -/
def skip (r : Reader) : Reader :=
  match r.rest with
  | [] => r
  | c :: rest => { r with rest := rest, line := if c == '\n' then r.line + 1 else r.line }

/-- The reader past one character that never counts as a line break: the character after the
name of a `${…}` is taken as its operator before its kind is known. -/
def pass (r : Reader) : Reader :=
  match r.rest with
  | [] => r
  | _ :: rest => { r with rest := rest }

/-- The reader with a token put back. -/
def unread (t : Tok) (r : Reader) : Reader := { r with back := some t }

/-- The error for a token the grammar does not allow here. -/
def unexpected (r : Reader) : SynErr := ⟨r.line, r.last.name ++ " unexpected"⟩

/-- The error for a token other than the one the grammar needs. -/
def expecting (r : Reader) (what : String) : SynErr :=
  ⟨r.line, r.last.name ++ " unexpected (expecting " ++ what ++ ")"⟩

/-- An error with a message of its own. -/
def fail (r : Reader) (msg : String) : SynErr := ⟨r.line, msg⟩

/-- The error when the fuel runs out. -/
def tooDeep (r : Reader) : SynErr := ⟨r.line, "script nested too deeply"⟩

end Reader

/-- The segments of a word read so far, last first, the bytes of open and quoted text last
first too. -/
abbrev Acc := List Seg

namespace Acc

/-- Adds an open character. -/
def lit (acc : Acc) (c : Char) : Acc :=
  match acc with
  | .lit bs :: rest => .lit (byteOf c :: bs) :: rest
  | _ => .lit [byteOf c] :: acc

/-- Adds a quoted character. -/
def quoted (acc : Acc) (c : Char) : Acc :=
  match acc with
  | .quoted bs :: rest => .quoted (byteOf c :: bs) :: rest
  | _ => .quoted [byteOf c] :: acc

/-- Adds a character, quoted or not. -/
def text (acc : Acc) (q : Bool) (c : Char) : Acc := if q then acc.quoted c else acc.lit c

/-- Adds quoted text given in order; an empty text still leaves a quoted segment. -/
def region (acc : Acc) (bs : Bytes) : Acc :=
  match acc with
  | .quoted old :: rest => .quoted (bs.reverse ++ old) :: rest
  | _ => .quoted bs.reverse :: acc

/-- Adds an expansion or a double-quoted region. -/
def seg (acc : Acc) (s : Seg) : Acc := s :: acc

/-- The word read. -/
def done (acc : Acc) : Word :=
  acc.reverse.map fun s => match s with
    | .lit bs => .lit bs.reverse
    | .quoted bs => .quoted bs.reverse
    | s => s

end Acc

/-- The contexts a word is read in. -/
inductive Ctx
  /-- A command word; for the delimiter of a here-document `$` is plain text. -/
  | top (delimiter : Bool)
  /-- Inside double quotes, possibly inside the word of a `${…}`. -/
  | dquote (inBrace : Bool)
  /-- The word of a `${…}` read as open text. -/
  | braceOpen
  /-- The word of a `${…}` inside double quotes. -/
  | braceQuoted
  /-- An arithmetic expansion, with the parentheses open in it. -/
  | arith (depth : Nat)
  /-- A line of a here-document whose body is expanded. -/
  | hereLine
  deriving DecidableEq

namespace Ctx

/-- Whether plain characters are quoted. -/
def quotesText : Ctx → Bool
  | dquote _ | braceQuoted | hereLine => true
  | _ => false

/-- Whether a backslash quotes whatever follows it. -/
def escapesAll : Ctx → Bool
  | top _ | braceOpen => true
  | _ => false

/-- Whether a `${…}` is open, so that a backslash before a closing brace quotes it. -/
def inBrace : Ctx → Bool
  | dquote b => b
  | braceQuoted => true
  | _ => false

/-- Whether the context is quoted, as the word of a `${…}` in it is. -/
def quoting : Ctx → Bool
  | dquote _ | braceQuoted | hereLine | arith _ => true
  | _ => false

end Ctx

/-- What ended a run of segments. -/
inductive Stop
  /-- A command word ends before a delimiter or at the end of the input. -/
  | delim
  /-- The closing double quote. -/
  | quote
  /-- The closing brace of a `${…}`. -/
  | brace
  /-- The `))` of an arithmetic expansion. -/
  | arithEnd
  /-- The end of a line of a here-document. -/
  | lineEnd

/-- The character after a backslash, in a context. -/
def escape (ctx : Ctx) (d : Char) (acc : Acc) : Acc :=
  if ctx.escapesAll then acc.quoted d
  else if d == '\\' || d == '`' || d == '$' || (d == '"' && ctx != .hereLine)
      || (d == '}' && ctx.inBrace) then acc.quoted d
  else (acc.quoted '\\').quoted d

/-- What the end of the input does in a context. -/
def endOfInput (ctx : Ctx) (r : Reader) (acc : Acc) : Except SynErr (Acc × Reader × Stop) :=
  match ctx with
  | .top _ => .ok (acc, r, .delim)
  | .hereLine => .ok (acc, r, .lineEnd)
  | .dquote _ | .braceQuoted => .error (r.fail "Unterminated quoted string")
  | .braceOpen => .error (r.fail "Missing '\x7d'")
  | .arith _ => .error (r.fail "Missing '))'")

/-- Reads single-quoted text up to the closing quote. -/
def readSingle (r : Reader) : Except SynErr (Bytes × Reader) :=
  let rec go : List Char → Nat → Bytes → Option (Bytes × List Char) × Nat
    | [], n, _ => (none, n)
    | '\'' :: rest, n, acc => (some (acc.reverse, rest), n)
    | c :: rest, n, acc => go rest (if c == '\n' then n + 1 else n) (byteOf c :: acc)
  match go r.rest 0 [] with
  | (none, n) => .error ⟨r.line + n, "Unterminated quoted string"⟩
  | (some (bs, rest), n) => .ok (bs, { r with rest := rest, line := r.line + n })

/-- Reads the text of an old-style command substitution up to the closing backquote. A
backslash is dropped before a backslash, a backquote and a dollar sign, and inside double
quotes before a double quote. -/
def readBackquoted (inQuotes : Bool) (r : Reader) : Except SynErr (List Char × Reader) :=
  let rec go : List Char → Nat → List Char → Option (List Char × List Char) × Nat
    | '\\' :: '\n' :: rest, n, acc => go rest (n + 1) acc
    | '`' :: rest, n, acc => (some (acc.reverse, rest), n)
    | '\\' :: d :: rest, n, acc =>
      let acc := if d == '\\' || d == '`' || d == '$' || (inQuotes && d == '"') then acc
        else '\\' :: acc
      go rest (if d == '\n' then n + 1 else n) (d :: acc)
    | c :: rest, n, acc => go rest (if c == '\n' then n + 1 else n) (c :: acc)
    | [], n, _ => (none, n)
  match go r.rest 0 [] with
  | (none, n) => .error ⟨r.line + n, "EOF in backquote substitution"⟩
  | (some (text, rest), n) => .ok (text, { r with rest := rest, line := r.line + n })

/-- Reads a redirection operator at `<` or `>`, for the descriptor written before it. -/
def readRedirHead (fd : Option Nat) (r : Reader) : RedirHead × Reader :=
  match r.rest with
  | '>' :: _ =>
    let r := r.skip.joined
    let fd := fd.getD 1
    match r.rest with
    | '>' :: _ => (.file fd .append, r.skip)
    | '|' :: _ => (.file fd .clobber, r.skip)
    | '&' :: _ => (.dup fd false, r.skip)
    | _ => (.file fd .output, r)
  | _ =>
    let r := r.skip.joined
    let fd := fd.getD 0
    match r.rest with
    | '<' :: _ =>
      let r := r.skip.joined
      match r.rest with
      | '-' :: _ => (.here fd true, r.skip)
      | _ => (.here fd false, r)
    | '&' :: _ => (.dup fd true, r.skip)
    | '>' :: _ => (.file fd .readWrite, r.skip)
    | _ => (.file fd .input, r)

/-- The descriptor a word names in front of a redirection operator: nothing, or one digit. -/
def redirFd? : Word → Option (Option Nat)
  | [] => some none
  | [.lit [d]] => if 48 ≤ d && d ≤ 57 then some (some (d.toNat - 48)) else none
  | _ => none

/-- The text of a here-document delimiter: the word with its quotes removed. -/
def markText : Word → List Char
  | [] => []
  | .lit bs :: rest => bs.map charOf ++ markText rest
  | .quoted bs :: rest => bs.map charOf ++ markText rest
  | .dq inner :: rest => markText inner ++ markText rest
  | _ :: rest => markText rest

/-- Whether a word is an assignment: a name and `=` at its front, in open text. -/
def isAssignment (w : Word) : Bool :=
  match w with
  | .lit bs :: _ =>
    let cs := bs.map charOf
    let name := cs.takeWhile (· != '=')
    name.length < cs.length && isName name
  | _ => false

/-- The word a token stands for as a pattern of a `case` arm; a reserved word is a pattern
too. -/
def Tok.patternWord : Tok → Word
  | .word w _ _ => w
  | .kw k => [.lit (bytesOf k.text)]
  | _ => []

/-- Whether the text starts with the delimiter alone on its line. -/
def atMark (mark rest : List Char) : Bool :=
  match rest.drop mark.length with
  | [] => rest.take mark.length == mark
  | c :: _ => c == '\n' && rest.take mark.length == mark

/-- Drops the tabs at the front of the text. -/
def Reader.dropTabs (r : Reader) : Reader := { r with rest := r.rest.dropWhile (· == '\t') }

/-- Reads one line of a here-document as it is, with its line feed. -/
def Reader.rawLine (r : Reader) : Bytes × Reader :=
  let line := r.rest.takeWhile (· != '\n')
  let rest := r.rest.dropWhile (· != '\n')
  match rest with
  | [] => ((line.map byteOf), { r with rest := [] })
  | _ :: rest => ((line ++ ['\n']).map byteOf, { r with rest := rest, line := r.line + 1 })

mutual

/-- Places the bodies of here-documents, in the order the documents appear in the command. -/
def Cmd.fillHeres : Cmd → List Word → Cmd × List Word
  | .simple line assigns args redirs, bs =>
    let (redirs, bs) := Redir.fillAll redirs bs
    (.simple line assigns args redirs, bs)
  | .pipe stages, bs =>
    let (stages, bs) := Cmd.fillAll stages bs
    (.pipe stages, bs)
  | .andThen a b, bs =>
    let (a, bs) := a.fillHeres bs
    let (b, bs) := b.fillHeres bs
    (.andThen a b, bs)
  | .orElse a b, bs =>
    let (a, bs) := a.fillHeres bs
    let (b, bs) := b.fillHeres bs
    (.orElse a b, bs)
  | .seq a b, bs =>
    let (a, bs) := a.fillHeres bs
    let (b, bs) := b.fillHeres bs
    (.seq a b, bs)
  | .background line c, bs =>
    let (c, bs) := c.fillHeres bs
    (.background line c, bs)
  | .negate c, bs =>
    let (c, bs) := c.fillHeres bs
    (.negate c, bs)
  | .subshell line body redirs, bs =>
    let (body, bs) := body.fillHeres bs
    let (redirs, bs) := Redir.fillAll redirs bs
    (.subshell line body redirs, bs)
  | .redirected line body redirs, bs =>
    let (body, bs) := body.fillHeres bs
    let (redirs, bs) := Redir.fillAll redirs bs
    (.redirected line body redirs, bs)
  | .ifThen c y none, bs =>
    let (c, bs) := c.fillHeres bs
    let (y, bs) := y.fillHeres bs
    (.ifThen c y none, bs)
  | .ifThen c y (some n), bs =>
    let (c, bs) := c.fillHeres bs
    let (y, bs) := y.fillHeres bs
    let (n, bs) := n.fillHeres bs
    (.ifThen c y (some n), bs)
  | .loop u c body, bs =>
    let (c, bs) := c.fillHeres bs
    let (body, bs) := body.fillHeres bs
    (.loop u c body, bs)
  | .forIn line name items body, bs =>
    let (body, bs) := body.fillHeres bs
    (.forIn line name items body, bs)
  | .caseOf line subject arms, bs =>
    let (arms, bs) := CaseArm.fillAll arms bs
    (.caseOf line subject arms, bs)
  | .defun line name body, bs =>
    let (body, bs) := body.fillHeres bs
    (.defun line name body, bs)
  | .empty, bs => (.empty, bs)

/-- Places here-document bodies in a list of commands. -/
def Cmd.fillAll : List Cmd → List Word → List Cmd × List Word
  | [], bs => ([], bs)
  | c :: cs, bs =>
    let (c, bs) := c.fillHeres bs
    let (cs, bs) := Cmd.fillAll cs bs
    (c :: cs, bs)

/-- Places here-document bodies in the arms of a `case`. -/
def CaseArm.fillAll : List CaseArm → List Word → List CaseArm × List Word
  | [], bs => ([], bs)
  | .arm ps none :: arms, bs =>
    let (arms, bs) := CaseArm.fillAll arms bs
    (.arm ps none :: arms, bs)
  | .arm ps (some c) :: arms, bs =>
    let (c, bs) := c.fillHeres bs
    let (arms, bs) := CaseArm.fillAll arms bs
    (.arm ps (some c) :: arms, bs)

/-- Places here-document bodies in a list of redirections. -/
def Redir.fillAll : List Redir → List Word → List Redir × List Word
  | [], bs => ([], bs)
  | .here fd _ e :: rs, b :: bs =>
    let (rs, bs) := Redir.fillAll rs bs
    (.here fd b e :: rs, bs)
  | r :: rs, bs =>
    let (rs, bs) := Redir.fillAll rs bs
    (r :: rs, bs)

end

/-- Places here-document bodies in a command that may be missing. -/
def fillHeresIn (c : Option Cmd) (bs : List Word) : Cmd :=
  match c with
  | some c => (c.fillHeres bs).1
  | none => .empty

mutual

/-- Reads the segments of a word in a context, up to what ends it there. -/
def readSegs : Nat → Ctx → Reader → Acc → Except SynErr (Acc × Reader × Stop)
  | 0, _, r, _ => .error r.tooDeep
  | f + 1, ctx, r0, acc =>
    let r := r0.joined
    match r.rest with
    | [] => endOfInput ctx r acc
    | c :: rest =>
      let r1 := r.skip
      if c == '\\' then
        match rest with
        | [] => readSegs f ctx r1 (acc.quoted '\\')
        | d :: _ => readSegs f ctx r1.skip (escape ctx d acc)
      else if c == '$' && ctx != .top true then
        match readDollar f ctx r1 with
        | .error e => .error e
        | .ok (some s, r2) => readSegs f ctx r2 (acc.seg s)
        | .ok (none, r2) => readSegs f ctx r2 (acc.text ctx.quotesText '$')
      else if c == '`' then
        match readBackquote f ctx.quoting r1 with
        | .error e => .error e
        | .ok (s, r2) => readSegs f ctx r2 (acc.seg s)
      else
        match ctx with
        | .top _ =>
          if isDelimiter c then .ok (acc, r, .delim)
          else if c == '\'' then
            match readSingle r1 with
            | .error e => .error e
            | .ok (bs, r2) => readSegs f ctx r2 (acc.region bs)
          else if c == '"' then
            match readSegs f (.dquote false) r1 [] with
            | .error e => .error e
            | .ok (inner, r2, _) => readSegs f ctx r2 (acc.seg (.dq inner.done))
          else readSegs f ctx r1 (acc.lit c)
        | .dquote _ =>
          if c == '"' then .ok (acc, r1, .quote) else readSegs f ctx r1 (acc.quoted c)
        | .braceOpen =>
          if c == '}' then .ok (acc, r1, .brace)
          else if c == '\'' then
            match readSingle r1 with
            | .error e => .error e
            | .ok (bs, r2) => readSegs f ctx r2 (acc.region bs)
          else if c == '"' then
            match readSegs f (.dquote true) r1 [] with
            | .error e => .error e
            | .ok (inner, r2, _) => readSegs f ctx r2 (acc.seg (.dq inner.done))
          else readSegs f ctx r1 (acc.lit c)
        | .braceQuoted =>
          if c == '}' then .ok (acc, r1, .brace)
          else if c == '"' then readSegs f ctx r1 acc
          else readSegs f ctx r1 (acc.quoted c)
        | .arith depth =>
          if c == '(' then readSegs f (.arith (depth + 1)) r1 (acc.lit c)
          else if c == ')' then
            if depth > 0 then readSegs f (.arith (depth - 1)) r1 (acc.lit c)
            else match r1.rest with
              | ')' :: _ => .ok (acc, r1.skip, .arithEnd)
              | _ => readSegs f ctx r1 (acc.lit c)
          else readSegs f ctx r1 (acc.lit c)
        | .hereLine =>
          if c == '\n' then .ok (acc.quoted c, r1, .lineEnd)
          else readSegs f ctx r1 (acc.quoted c)

/-- Reads what follows a `$`: an expansion, or nothing when the `$` is plain text. -/
def readDollar : Nat → Ctx → Reader → Except SynErr (Option Seg × Reader)
  | 0, _, r => .error r.tooDeep
  | f + 1, ctx, r0 =>
    let r := r0.joined
    match r.rest with
    | '(' :: _ =>
      let r1 := r.skip.joined
      match r1.rest with
      | '(' :: _ =>
        match readSegs f (.arith 0) r1.skip [] with
        | .error e => .error e
        | .ok (acc, r2, _) => .ok (some (.arith acc.done), r2)
      | _ =>
        match readSubst f r1 with
        | .error e => .error e
        | .ok (c, r2) => .ok (some (.subst c), r2)
    | '{' :: _ => readBraced f ctx r.skip
    | c :: _ =>
      if isNameStart c then
        let (name, rest, n) := spanJoined isNameChar r.rest 0 []
        .ok (some (.param (String.ofList name) .plain []), { r with rest := rest, line := r.line + n })
      else if isDigitChar c || isSpecialParam c then
        .ok (some (.param (String.singleton c) .plain []), r.skip)
      else .ok (none, r)
    | [] => .ok (none, r)

/-- Reads a `${…}` after its opening brace. -/
def readBraced : Nat → Ctx → Reader → Except SynErr (Option Seg × Reader)
  | 0, _, r => .error r.tooDeep
  | f + 1, ctx, r0 =>
    let r := r0.joined
    match r.rest with
    | [] => readParamWord f ctx "" .bad r
    | c :: _ =>
      if isNameStart c || isDigitChar c then
        let (name, rest, n) :=
          spanJoined (if isNameStart c then isNameChar else isDigitChar) r.rest 0 []
        afterName f ctx (String.ofList name) { r with rest := rest, line := r.line + n }
      else if c == '}' then readParamWord f ctx "" .bad r
      else
        let r1 := r.pass.joined
        if c == '#' then
          match r1.rest with
          | [] => readParamWord f ctx "#" .bad r1
          | d :: _ =>
            if isNameChar d then
              let (name, rest, n) :=
                spanJoined (if isNameStart d then isNameChar else isDigitChar) r1.rest 0 []
              let r2 := ({ r1 with rest := rest, line := r1.line + n } : Reader).joined
              match r2.rest with
              | '}' :: _ => .ok (some (.param (String.ofList name) .length []), r2.skip)
              | _ => readParamWord f ctx (String.ofList name) .bad r2
            else
              let r2 := r1.pass.joined
              if d == '}' || r2.rest.head? != some '}' then opAfter f ctx "#" d r2
              else if isSpecialParam d || isDigitChar d then
                .ok (some (.param (String.singleton d) .length []), r2.skip)
              else readParamWord f ctx "" .bad r2
        else if isSpecialParam c then
          match r1.rest with
          | [] => readParamWord f ctx (String.singleton c) .bad r1
          | d :: _ => opAfter f ctx (String.singleton c) d r1.pass
        else readParamWord f ctx "" .bad r1

/-- Reads the operator after the name in `${…}`. -/
def afterName : Nat → Ctx → String → Reader → Except SynErr (Option Seg × Reader)
  | 0, _, _, r => .error r.tooDeep
  | f + 1, ctx, name, r0 =>
    let r := r0.joined
    match r.rest with
    | [] => readParamWord f ctx name .bad r
    | d :: _ => opAfter f ctx name d r.pass

/-- The expansion named `name` whose operator starts with `d`, already read. -/
def opAfter : Nat → Ctx → String → Char → Reader → Except SynErr (Option Seg × Reader)
  | 0, _, _, _, r => .error r.tooDeep
  | f + 1, ctx, name, d, r0 =>
    if d == '}' then .ok (some (.param name .plain []), r0)
    else if d == '-' then readParamWord f ctx name (.useDefault false) r0
    else if d == '=' then readParamWord f ctx name (.assignDefault false) r0
    else if d == '?' then readParamWord f ctx name (.failUnset false) r0
    else if d == '+' then readParamWord f ctx name (.useAlternative false) r0
    else if d == ':' then
      let r := r0.joined
      match r.rest with
      | e :: _ =>
        if e == '-' then readParamWord f ctx name (.useDefault true) r.skip
        else if e == '=' then readParamWord f ctx name (.assignDefault true) r.skip
        else if e == '?' then readParamWord f ctx name (.failUnset true) r.skip
        else if e == '+' then readParamWord f ctx name (.useAlternative true) r.skip
        else readParamWord f ctx name .bad r.pass
      | [] => readParamWord f ctx name .bad r
    else if d == '%' || d == '#' then
      let r := r0.joined
      let longest := r.rest.head? == some d
      let r := if longest then r.skip else r
      readParamWord f ctx name
        (if d == '%' then .removeSuffix longest else .removePrefix longest) r
    else readParamWord f ctx name .bad r0

/-- Reads the word of a `${name op word}` up to the closing brace. -/
def readParamWord : Nat → Ctx → String → ParamOp → Reader → Except SynErr (Option Seg × Reader)
  | 0, _, _, _, r => .error r.tooDeep
  | f + 1, ctx, name, op, r =>
    let wctx : Ctx := match op with
      | .removeSuffix _ | .removePrefix _ => .braceOpen
      | _ => if ctx.quoting then .braceQuoted else .braceOpen
    match readSegs f wctx r [] with
    | .error e => .error e
    | .ok (acc, r2, _) => .ok (some (.param name op acc.done), r2)

/-- Reads the commands of a `$(…)` and its closing parenthesis. -/
def readSubst : Nat → Reader → Except SynErr (Cmd × Reader)
  | 0, r => .error r.tooDeep
  | f + 1, r0 =>
    let r := { r0 with pending := [], bodies := [], back := none }
    match readList f 2 none r with
    | .error e => .error e
    | .ok (c, r) =>
      match readTok f .plain r with
      | .error e => .error e
      | .ok (.rparen, r) =>
        match readHeres f r with
        | .error e => .error e
        | .ok r =>
          .ok (fillHeresIn c r.bodies, { r with pending := r0.pending, bodies := r0.bodies })
      | .ok (_, r) => .error (r.expecting "\")\"")

/-- Reads an old-style command substitution after its opening backquote. -/
def readBackquote : Nat → Bool → Reader → Except SynErr (Seg × Reader)
  | 0, _, r => .error r.tooDeep
  | f + 1, inQuotes, r =>
    match readBackquoted inQuotes r with
    | .error e => .error e
    | .ok (text, r2) =>
      match readList f 2 none { Reader.start text r.line with aliases := r.aliases } with
      | .error e => .error e
      | .ok (c, sub) =>
        match readHeres f sub with
        | .error e => .error e
        | .ok sub => .ok (.subst (fillHeresIn c sub.bodies), r2)

/-- Reads the next token from the text, or hands out the token put back. -/
def lex : Nat → Bool → Reader → Except SynErr (Tok × Reader)
  | 0, _, r => .error r.tooDeep
  | f + 1, delim, r0 =>
    match r0.back with
    | some t => .ok (t, { r0 with back := none })
    | none =>
      let r := r0.joined
      match r.rest with
      | [] => .ok (.eof, r)
      | c :: _ =>
        if c == ' ' || c == '\t' then lex f delim r.skip
        else if c == '#' then lex f delim { r with rest := r.rest.dropWhile (· != '\n') }
        else if c == '\n' then .ok (.newline, r.skip)
        else if c == '&' || c == '|' || c == ';' then
          let r1 := r.skip.joined
          let twice := r1.rest.head? == some c
          let r2 := if twice then r1.skip else r1
          let t : Tok := if c == '&' then (if twice then .andIf else .amp)
            else if c == '|' then (if twice then .orIf else .bar)
            else if twice then .dsemi else .semi
          .ok (t, r2)
        else if c == '(' then .ok (.lparen, r.skip)
        else if c == ')' then .ok (.rparen, r.skip)
        else
          match readSegs f (.top delim) r [] with
          | .error e => .error e
          | .ok (acc, r2, _) =>
            let w := acc.done
            match r2.rest, redirFd? w with
            | '<' :: _, some fd | '>' :: _, some fd =>
              let (h, r3) := readRedirHead fd r2
              .ok (.redir h, r3)
            | _, _ => .ok (Tok.ofWord w, r2)

/-- Reads the next token as the grammar wants it. A plain unquoted word where a command's name
may stand, or after the text of an alias that ends with a blank, that names an alias not in use
is replaced by the alias's text, which is read in its place. -/
def readTok : Nat → Want → Reader → Except SynErr (Tok × Reader)
  | 0, _, r => .error r.tooDeep
  | f + 1, want, r0 =>
    let fresh := r0.back.isNone
    let check := want.aliasable || r0.afterBlankAlias
    match lex f want.delimiter r0 with
    | .error e => .error e
    | .ok (t, r) =>
      match (if want.skipLines then skipLines f t r else .ok (t, r)) with
      | .error e => .error e
      | .ok (t, r) =>
        let t := if want.keyword then t.asKeyword else t
        let again := match t with
          | .word _ (some p) false =>
            if fresh && check then r.expandAlias (String.ofList (p.map charOf)) else none
          | _ => none
        match again with
        | some r => readTok f want r
        | none => .ok (t, { r with last := t })

/-- Skips line feeds, reading the here-documents they end. -/
def skipLines : Nat → Tok → Reader → Except SynErr (Tok × Reader)
  | 0, _, r => .error r.tooDeep
  | f + 1, .newline, r =>
    match readHeres f r with
    | .error e => .error e
    | .ok r =>
      match lex f false r with
      | .error e => .error e
      | .ok (t, r) => skipLines f t r
  | _ + 1, t, r => .ok (t, r)

/-- Reads the bodies of the here-documents waiting for them. -/
def readHeres : Nat → Reader → Except SynErr Reader
  | 0, r => .error r.tooDeep
  | f + 1, r =>
    match r.pending with
    | [] => .ok r
    | spec :: more =>
      match readHereBody f spec { r with pending := more } [] with
      | .error e => .error e
      | .ok (body, r) => readHeres f { r with bodies := r.bodies ++ [body] }

/-- Reads the body of a here-document up to its delimiter line or the end of the input. -/
def readHereBody : Nat → HereSpec → Reader → Acc → Except SynErr (Word × Reader)
  | 0, _, r, _ => .error r.tooDeep
  | f + 1, spec, r0, acc =>
    let r := if spec.expand then r0.joined else r0
    let r := if spec.strip then r.dropTabs else r
    if atMark spec.mark r.rest then
      let r := { r with rest := r.rest.drop spec.mark.length }
      .ok (acc.done, r.skip)
    else
      match r.rest with
      | [] => .ok (acc.done, r)
      | _ =>
        if spec.expand then
          match readSegs f .hereLine r acc with
          | .error e => .error e
          | .ok (acc, r, _) => readHereBody f spec r acc
        else
          let (line, r) := r.rawLine
          readHereBody f spec r (acc.region line)

/-- Reads a list of and-or lists separated by `;`, `&` and line feeds. `nl` is 1 at the top of
a script, where a line feed ends the list; it is 0 for the body of a compound command and 2 for
a body that may be empty; the 2 is added once a command is read. -/
def readList : Nat → Nat → Option Cmd → Reader → Except SynErr (Option Cmd × Reader)
  | 0, _, _, r => .error r.tooDeep
  | f + 1, nl, acc, r =>
    let top := nl % 2 == 1
    match readTok f ⟨!top, true, false, true⟩ r with
    | .error e => .error e
    | .ok (.newline, r) =>
      match readHeres f r with
      | .error e => .error e
      | .ok r => .ok (acc, r)
    | .ok (.eof, r) =>
      match readHeres f r with
      | .error e => .error e
      | .ok r => .ok (acc, r.unread .eof)
    | .ok (t, r) =>
      let r := r.unread t
      if nl == 2 && t.endsList then .ok (acc, r)
      else
        match readAndOr f r with
        | .error e => .error e
        | .ok (c, r) =>
          match readTok f .plain r with
          | .error e => .error e
          | .ok (t, r) =>
            let c := match t with
              | .amp => Cmd.background r.line c
              | _ => c
            let acc := some (match acc with
              | none => c
              | some a => Cmd.seq a c)
            match t with
            | .eof =>
              match readHeres f r with
              | .error e => .error e
              | .ok r => .ok (acc, r.unread .eof)
            | .newline =>
              match readHeres f r with
              | .error e => .error e
              | .ok r => if top then .ok (acc, r) else readList f (nl ||| 2) acc r
            | .amp | .semi => readList f (nl ||| 2) acc r
            | t => if top then .error r.unexpected else .ok (acc, r.unread t)

/-- Reads pipelines joined by `&&` and `||`. -/
def readAndOr : Nat → Reader → Except SynErr (Cmd × Reader)
  | 0, r => .error r.tooDeep
  | f + 1, r =>
    match readPipeline f .plain r with
    | .error e => .error e
    | .ok (c, r) => andOrRest f c r

/-- Reads the rest of an and-or list after its first pipeline. -/
def andOrRest : Nat → Cmd → Reader → Except SynErr (Cmd × Reader)
  | 0, _, r => .error r.tooDeep
  | f + 1, c, r =>
    match readTok f .plain r with
    | .error e => .error e
    | .ok (.andIf, r) =>
      match readPipeline f .commandLines r with
      | .error e => .error e
      | .ok (d, r) => andOrRest f (.andThen c d) r
    | .ok (.orIf, r) =>
      match readPipeline f .commandLines r with
      | .error e => .error e
      | .ok (d, r) => andOrRest f (.orElse c d) r
    | .ok (t, r) => .ok (c, r.unread t)

/-- Reads a pipeline, possibly negated with `!`. -/
def readPipeline : Nat → Want → Reader → Except SynErr (Cmd × Reader)
  | 0, _, r => .error r.tooDeep
  | f + 1, want, r =>
    match readTok f want r with
    | .error e => .error e
    | .ok (.kw .bang, r) =>
      match readCommand f .command r with
      | .error e => .error e
      | .ok (c, r) => pipeRest f true [c] r
    | .ok (t, r) =>
      match readCommand f .plain (r.unread t) with
      | .error e => .error e
      | .ok (c, r) => pipeRest f false [c] r

/-- Reads the further stages of a pipeline; `acc` holds the stages read, last first. -/
def pipeRest : Nat → Bool → List Cmd → Reader → Except SynErr (Cmd × Reader)
  | 0, _, _, r => .error r.tooDeep
  | f + 1, neg, acc, r =>
    match readTok f .plain r with
    | .error e => .error e
    | .ok (.bar, r) =>
      match readCommand f .commandLines r with
      | .error e => .error e
      | .ok (c, r) => pipeRest f neg (c :: acc) r
    | .ok (t, r) =>
      let c := match acc with
        | [c] => c
        | cs => Cmd.pipe cs.reverse
      .ok (if neg then .negate c else c, r.unread t)

/-- Reads one command: a compound command with its redirections, a function definition or a
simple command. -/
def readCommand : Nat → Want → Reader → Except SynErr (Cmd × Reader)
  | 0, _, r => .error r.tooDeep
  | f + 1, want, r0 =>
    let line := r0.line
    match readTok f want r0 with
    | .error e => .error e
    | .ok (.kw .ifKw, r) => readIf f line r
    | .ok (.kw .whileKw, r) => readLoop f false line r
    | .ok (.kw .untilKw, r) => readLoop f true line r
    | .ok (.kw .forKw, r) => readFor f line r
    | .ok (.kw .caseKw, r) => readCase f line r
    | .ok (.lparen, r) =>
      match readList f 0 none r with
      | .error e => .error e
      | .ok (body, r) =>
        match readTok f .plain r with
        | .error e => .error e
        | .ok (.rparen, r) =>
          match readRedirs f [] r with
          | .error e => .error e
          | .ok (rs, r) => .ok (.subshell line (body.getD .empty) rs, r)
        | .ok (_, r) => .error (r.expecting "\")\"")
    | .ok (.kw .openBrace, r) =>
      match readList f 0 none r with
      | .error e => .error e
      | .ok (body, r) =>
        match readTok f .plain r with
        | .error e => .error e
        | .ok (.kw .closeBrace, r) => withRedirs f line (body.getD .empty) r
        | .ok (_, r) => .error (r.expecting "\"\x7d\"")
    | .ok (t@(.word ..), r) => readSimple f r.line true [] [] [] (r.unread t)
    | .ok (t@(.redir _), r) => readSimple f r.line true [] [] [] (r.unread t)
    | .ok (_, r) => .error r.unexpected

/-- Reads the redirections after a compound command and wraps it with them. -/
def withRedirs : Nat → Nat → Cmd → Reader → Except SynErr (Cmd × Reader)
  | 0, _, _, r => .error r.tooDeep
  | f + 1, line, c, r =>
    match readRedirs f [] r with
    | .error e => .error e
    | .ok ([], r) => .ok (c, r)
    | .ok (rs, r) => .ok (.redirected line c rs, r)

/-- Reads the redirections after a compound command; `acc` holds those read, last first. -/
def readRedirs : Nat → List Redir → Reader → Except SynErr (List Redir × Reader)
  | 0, _, r => .error r.tooDeep
  | f + 1, acc, r =>
    match readTok f .word r with
    | .error e => .error e
    | .ok (.redir h, r) =>
      match readTarget f h r with
      | .error e => .error e
      | .ok (rd, r) => readRedirs f (rd :: acc) r
    | .ok (t, r) => .ok (acc.reverse, r.unread t)

/-- Reads the word a redirection applies to; a here-document waits for its body. -/
def readTarget : Nat → RedirHead → Reader → Except SynErr (Redir × Reader)
  | 0, _, r => .error r.tooDeep
  | f + 1, h, r =>
    match h with
    | .here fd strip =>
      match readTok f .mark r with
      | .error e => .error e
      | .ok (.word w _ q, r) =>
        .ok (.here fd [] !q, { r with pending := r.pending ++ [⟨markText w, strip, !q⟩] })
      | .ok (_, r) => .error r.unexpected
    | .dup fd input =>
      match readTok f .plain r with
      | .error e => .error e
      | .ok (.word w _ _, r) => .ok (.dup fd input w, r)
      | .ok (_, r) => .error r.unexpected
    | .file fd op =>
      match readTok f .plain r with
      | .error e => .error e
      | .ok (.word w _ _, r) => .ok (.file fd op w, r)
      | .ok (_, r) => .error r.unexpected

/-- Reads a simple command, or a function definition; `assignOk` holds until the first word
that is not an assignment, and the lists hold what was read, last first. -/
def readSimple : Nat → Nat → Bool → List Word → List Word → List Redir → Reader →
    Except SynErr (Cmd × Reader)
  | 0, _, _, _, _, _, r => .error r.tooDeep
  | f + 1, line, assignOk, assigns, args, redirs, r =>
    let done (r : Reader) : Cmd × Reader :=
      (.simple line assigns.reverse args.reverse redirs.reverse, r)
    match readTok f (if assignOk then .aliased else .plain) r with
    | .error e => .error e
    | .ok (.word w _ _, r) =>
      if assignOk && isAssignment w then
        readSimple f line true (w :: assigns) args redirs r
      else readSimple f line false assigns (w :: args) redirs r
    | .ok (.redir h, r) =>
      match readTarget f h r with
      | .error e => .error e
      | .ok (rd, r) => readSimple f line assignOk assigns args (rd :: redirs) r
    | .ok (.lparen, r) =>
      match args, assigns, redirs with
      | [w], [], [] =>
        match readTok f .plain r with
        | .error e => .error e
        | .ok (.rparen, r) =>
          match w with
          | [.lit bs] =>
            let name := String.ofList (bs.map charOf)
            if isName (bs.map charOf) && !specialBuiltins.contains name then
              let fline := r.line
              match readCommand f .commandLines r with
              | .error e => .error e
              | .ok (body, r) => .ok (.defun fline name body, r)
            else .error (r.fail "Bad function name")
          | _ => .error (r.fail "Bad function name")
        | .ok (_, r) => .error (r.expecting "\")\"")
      | _, _, _ => .ok (done (r.unread .lparen))
    | .ok (t, r) => .ok (done (r.unread t))

/-- Reads an `if` command after `if`. -/
def readIf : Nat → Nat → Reader → Except SynErr (Cmd × Reader)
  | 0, _, r => .error r.tooDeep
  | f + 1, line, r =>
    match readList f 0 none r with
    | .error e => .error e
    | .ok (cond, r) =>
      match readTok f .plain r with
      | .error e => .error e
      | .ok (.kw .thenKw, r) =>
        match readList f 0 none r with
        | .error e => .error e
        | .ok (yes, r) =>
          match readElse f r with
          | .error e => .error e
          | .ok (no, r) =>
            match readTok f .plain r with
            | .error e => .error e
            | .ok (.kw .fiKw, r) =>
              withRedirs f line (.ifThen (cond.getD .empty) (yes.getD .empty) no) r
            | .ok (_, r) => .error (r.expecting "\"fi\"")
      | .ok (_, r) => .error (r.expecting "\"then\"")

/-- Reads the `elif` and `else` parts of an `if` command. -/
def readElse : Nat → Reader → Except SynErr (Option Cmd × Reader)
  | 0, r => .error r.tooDeep
  | f + 1, r =>
    match readTok f .plain r with
    | .error e => .error e
    | .ok (.kw .elifKw, r) =>
      match readList f 0 none r with
      | .error e => .error e
      | .ok (cond, r) =>
        match readTok f .plain r with
        | .error e => .error e
        | .ok (.kw .thenKw, r) =>
          match readList f 0 none r with
          | .error e => .error e
          | .ok (yes, r) =>
            match readElse f r with
            | .error e => .error e
            | .ok (no, r) => .ok (some (.ifThen (cond.getD .empty) (yes.getD .empty) no), r)
        | .ok (_, r) => .error (r.expecting "\"then\"")
    | .ok (.kw .elseKw, r) =>
      match readList f 0 none r with
      | .error e => .error e
      | .ok (no, r) => .ok (some (no.getD .empty), r)
    | .ok (t, r) => .ok (none, r.unread t)

/-- Reads a `while` or `until` loop after its first word. -/
def readLoop : Nat → Bool → Nat → Reader → Except SynErr (Cmd × Reader)
  | 0, _, _, r => .error r.tooDeep
  | f + 1, isUntil, line, r =>
    match readList f 0 none r with
    | .error e => .error e
    | .ok (cond, r) =>
      match readTok f .plain r with
      | .error e => .error e
      | .ok (.kw .doKw, r) =>
        match readList f 0 none r with
        | .error e => .error e
        | .ok (body, r) =>
          match readTok f .plain r with
          | .error e => .error e
          | .ok (.kw .doneKw, r) =>
            withRedirs f line (.loop isUntil (cond.getD .empty) (body.getD .empty)) r
          | .ok (_, r) => .error (r.expecting "\"done\"")
      | .ok (_, r) => .error (r.expecting "\"do\"")

/-- Reads a `for` loop after `for`. -/
def readFor : Nat → Nat → Reader → Except SynErr (Cmd × Reader)
  | 0, _, r => .error r.tooDeep
  | f + 1, line, r =>
    match readTok f .plain r with
    | .error e => .error e
    | .ok (.word _ (some p) false, r) =>
      let name := p.map charOf
      if !isName name then .error (r.fail "Bad for loop variable") else
      match readTok f .lines r with
      | .error e => .error e
      | .ok (.kw .inKw, r) =>
        match readItems f [] r with
        | .error e => .error e
        | .ok (items, r) => forBody f line (String.ofList name) items r
      | .ok (t, r) =>
        let r := match t with
          | .semi => r
          | t => r.unread t
        forBody f line (String.ofList name) [[.dq [.param "@" .plain []]]] r
    | .ok (_, r) => .error (r.fail "Bad for loop variable")

/-- Reads the words after `in` up to the line feed or `;` that ends them. -/
def readItems : Nat → List Word → Reader → Except SynErr (List Word × Reader)
  | 0, _, r => .error r.tooDeep
  | f + 1, acc, r =>
    match readTok f .plain r with
    | .error e => .error e
    | .ok (.word w _ _, r) => readItems f (w :: acc) r
    | .ok (.newline, r) | .ok (.semi, r) => .ok (acc.reverse, r)
    | .ok (_, r) => .error r.unexpected

/-- Reads the `do … done` of a `for` loop. -/
def forBody : Nat → Nat → String → List Word → Reader → Except SynErr (Cmd × Reader)
  | 0, _, _, _, r => .error r.tooDeep
  | f + 1, line, name, items, r =>
    match readTok f .lines r with
    | .error e => .error e
    | .ok (.kw .doKw, r) =>
      match readList f 0 none r with
      | .error e => .error e
      | .ok (body, r) =>
        match readTok f .plain r with
        | .error e => .error e
        | .ok (.kw .doneKw, r) =>
          withRedirs f line (.forIn line name items (body.getD .empty)) r
        | .ok (_, r) => .error (r.expecting "\"done\"")
    | .ok (_, r) => .error (r.expecting "\"do\"")

/-- Reads a `case` command after `case`. -/
def readCase : Nat → Nat → Reader → Except SynErr (Cmd × Reader)
  | 0, _, r => .error r.tooDeep
  | f + 1, line, r =>
    match readTok f .plain r with
    | .error e => .error e
    | .ok (.word w _ _, r) =>
      match readTok f .lines r with
      | .error e => .error e
      | .ok (.kw .inKw, r) =>
        match readArms f [] r with
        | .error e => .error e
        | .ok (arms, r) => withRedirs f line (.caseOf line w arms) r
      | .ok (_, r) => .error (r.expecting "\"in\"")
    | .ok (_, r) => .error (r.expecting "word")

/-- Reads the arms of a `case` up to `esac`; `acc` holds those read, last first. -/
def readArms : Nat → List CaseArm → Reader → Except SynErr (List CaseArm × Reader)
  | 0, _, r => .error r.tooDeep
  | f + 1, acc, r =>
    match readTok f .lines r with
    | .error e => .error e
    | .ok (.kw .esacKw, r) => .ok (acc.reverse, r)
    | .ok (t, r) =>
      let first : Except SynErr (Tok × Reader) := match t with
        | .lparen => readTok f .plain r
        | t => .ok (t, r)
      match first with
      | .error e => .error e
      | .ok (t, r) =>
        match readPatterns f [t.patternWord] r with
        | .error e => .error e
        | .ok (pats, r) =>
          match readList f 2 none r with
          | .error e => .error e
          | .ok (body, r) =>
            let acc := CaseArm.arm pats body :: acc
            match readTok f .lines r with
            | .error e => .error e
            | .ok (.kw .esacKw, r) => .ok (acc.reverse, r)
            | .ok (.dsemi, r) => readArms f acc r
            | .ok (_, r) => .error (r.expecting "\";;\"")

/-- Reads the further patterns of an arm after `|`, and the `)` after them. -/
def readPatterns : Nat → List Word → Reader → Except SynErr (List Word × Reader)
  | 0, _, r => .error r.tooDeep
  | f + 1, acc, r =>
    match readTok f .plain r with
    | .error e => .error e
    | .ok (.bar, r) =>
      match readTok f .plain r with
      | .error e => .error e
      | .ok (.word w _ _, r) => readPatterns f (w :: acc) r
      | .ok (_, r) => readPatterns f ([] :: acc) r
    | .ok (.rparen, r) => .ok (acc.reverse, r)
    | .ok (_, r) => .error (r.expecting "\")\"")

end

/-- The result of reading the next command of a script. -/
inductive Next
  /-- The script has ended. -/
  | atEnd
  /-- A line with no command on it. -/
  | blank
  /-- A command, complete with its here-documents. -/
  | command (c : Cmd)

/-- Reads the next command of a script. -/
def readNext (r : Reader) : Except SynErr (Next × Reader) :=
  let fuel := 8 * (r.rest.length + 16)
  match readList fuel 1 none r with
  | .error e => .error e
  | .ok (none, r) =>
    match r.back with
    | some .eof => .ok (.atEnd, r)
    | _ => .ok (.blank, r)
  | .ok (some c, r) =>
    let (c, _) := c.fillHeres r.bodies
    .ok (.command c, { r with bodies := [] })

end Conch.Sh
