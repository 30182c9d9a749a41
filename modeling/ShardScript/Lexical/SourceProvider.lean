import ShardScript.Lexical.Progress
import ShardScript.Library.Objects

/-! The two sources of tokens: `LexicalAnalyzer` reads them as they are asked for, `LexicalBuffer` has read them all. -/
namespace ShardScript.Lexical

/-- The calls of a `SourceProvider`. `Peek` is called with an index whose successors do not overflow. -/
inductive Call where
  | canConsume
  | canPeek
  | current
  | consume
  | peek (index : Int)
  | putBackToken (token : SyntaxToken)
  deriving DecidableEq

inductive Answer where
  | able (able : Bool)
  | token (token : SyntaxToken)
  | none
  deriving DecidableEq

structure LexicalAnalyzer where
  readBuffer : List SyntaxToken
  reader : Reader
  deriving DecidableEq

namespace LexicalAnalyzer

def of (name : String) (text : List Char) : LexicalAnalyzer := ⟨[],.of name text⟩

def push (token : SyntaxToken) (reader : Reader) (analyzer : LexicalAnalyzer) : LexicalAnalyzer :=
  ⟨analyzer.readBuffer ++ [token],reader⟩

variable (locale : Locale) (analyzer : LexicalAnalyzer)

def consume : SyntaxToken × LexicalAnalyzer :=
  match analyzer.readBuffer with
  | token :: readBuffer => (token,{ analyzer with readBuffer := readBuffer })
  | [] =>
      match readNextToken locale analyzer.reader with
      | (none,reader) => (.endOfFile,analyzer.push .endOfFile reader)
      | (some token,reader) => (token,analyzer.push token reader)

def current : SyntaxToken × LexicalAnalyzer :=
  match analyzer.readBuffer with
  | token :: _ => (token,analyzer)
  | [] => analyzer.consume locale

/-- The reads of `Peek`. The first component tells whether all of them have found a token. -/
def extend : Nat → LexicalAnalyzer → Bool × LexicalAnalyzer
  | 0,analyzer => (true,analyzer)
  | extendFor + 1,analyzer =>
      match readNextToken locale analyzer.reader with
      | (some token,reader) => extend extendFor (analyzer.push token reader)
      | (none,reader) => (false,analyzer.push .endOfFile reader)

def peek (index : Int) (analyzer : LexicalAnalyzer) : SyntaxToken × LexicalAnalyzer :=
  match analyzer.extend locale (index + 1 - analyzer.readBuffer.length + 1).toNat with
  | (false,analyzer) => (.endOfFile,analyzer)
  | (true,analyzer) =>
      (if index + 1 < 0 then .endOfFile else analyzer.readBuffer.getD (index + 1).toNat .endOfFile,analyzer)

def putBackToken (token : SyntaxToken) (analyzer : LexicalAnalyzer) : LexicalAnalyzer :=
  { analyzer with readBuffer := token :: analyzer.readBuffer }

def canConsume : Bool × LexicalAnalyzer :=
  let (token,analyzer) := analyzer.current locale
  (token.type != .endOfFile,analyzer)

def canPeek : Bool × LexicalAnalyzer :=
  let (token,analyzer) := analyzer.peek locale 0
  (token.type != .endOfFile,analyzer)

def respond : Library.Object Call Answer LexicalAnalyzer
  | .canConsume,analyzer => (analyzer.canConsume locale).map .able id
  | .canPeek,analyzer => (analyzer.canPeek locale).map .able id
  | .current,analyzer => (analyzer.current locale).map .token id
  | .consume,analyzer => (analyzer.consume locale).map .token id
  | .peek index,analyzer => (analyzer.peek locale index).map .token id
  | .putBackToken token,analyzer => (.none,analyzer.putBackToken token)

end LexicalAnalyzer

structure LexicalBuffer where
  sequence : List SyntaxToken
  currentIndex : Nat
  deriving DecidableEq

namespace LexicalBuffer

/-- `From`: the tokens are taken from the analyzer for as long as it can consume one. -/
def populateFrom (locale : Locale) : Nat → LexicalAnalyzer → List SyntaxToken → Option (List SyntaxToken)
  | 0,_,_ => none
  | fuel + 1,analyzer,sequence =>
      let (able,analyzer) := analyzer.canConsume locale
      if able then
        let (token,analyzer) := analyzer.current locale
        populateFrom locale fuel (analyzer.consume locale).2 (sequence ++ [token])
      else some sequence

def ofText (locale : Locale) (name : String) (text : List Char) : Option LexicalBuffer :=
  (populateFrom locale (text.length + 1) (.of name text) []).map fun sequence => ⟨sequence,0⟩

variable (buffer : LexicalBuffer)

def current : SyntaxToken :=
  if buffer.currentIndex ≥ buffer.sequence.length then .endOfFile
  else buffer.sequence.getD buffer.currentIndex .endOfFile

def consume : SyntaxToken × LexicalBuffer :=
  if buffer.currentIndex ≥ buffer.sequence.length then (.endOfFile,buffer)
  else (buffer.sequence.getD buffer.currentIndex .endOfFile,{ buffer with currentIndex := buffer.currentIndex + 1 })

def peek (index : Int) (buffer : LexicalBuffer) : SyntaxToken :=
  let target := buffer.currentIndex + 1 + index
  if target < 0 ∨ target ≥ buffer.sequence.length then .endOfFile else buffer.sequence.getD target.toNat .endOfFile

def putBackToken (token : SyntaxToken) (buffer : LexicalBuffer) : LexicalBuffer :=
  let currentIndex := min buffer.currentIndex buffer.sequence.length
  ⟨buffer.sequence.take currentIndex ++ token :: buffer.sequence.drop currentIndex,currentIndex⟩

def canConsume : Bool := buffer.currentIndex < buffer.sequence.length

def canPeek : Bool :=
  if buffer.sequence.isEmpty then false else buffer.currentIndex + 1 < buffer.sequence.length

def respond : Library.Object Call Answer LexicalBuffer
  | .canConsume,buffer => (.able buffer.canConsume,buffer)
  | .canPeek,buffer => (.able buffer.canPeek,buffer)
  | .current,buffer => (.token buffer.current,buffer)
  | .consume,buffer => (buffer.consume).map .token id
  | .peek index,buffer => (.token (buffer.peek index),buffer)
  | .putBackToken token,buffer => (.none,buffer.putBackToken token)

end LexicalBuffer
end ShardScript.Lexical
