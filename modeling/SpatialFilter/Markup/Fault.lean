import SpatialFilter.Text.Quoted

/-!
# Faults of markup

What can be wrong with a document: its tokens, the attributes of a tag, the entities in its
texts, and the nesting of its elements.  Positions count bytes; those of attributes start at
the name of the tag, those of entities at the text.
-/

namespace SpatialFilter.Markup

/-- A kind of token that can be left open. -/
inductive Construct where
  | bang
  | cdata
  | comment
  | doctype
  | instruction
  | element
  deriving DecidableEq, Repr

def Construct.name : Construct → String
  | .bang => "Bang"
  | .cdata => "CData"
  | .comment => "Comment"
  | .doctype => "DOCTYPE"
  | .instruction => "XmlDecl"
  | .element => "Element"

inductive AttributeFault where
  | noEquals (position : Nat)
  | noValue (position : Nat)
  | unquoted (position : Nat)
  | unclosed (position : Nat) (quote : Char)
  | duplicate (position earlier : Nat)
  deriving DecidableEq, Repr

def AttributeFault.message : AttributeFault → String
  | .noEquals position =>
    s!"position {position}: attribute key must be directly followed by `=` or space"
  | .noValue position => s!"position {position}: `=` must be followed by an attribute value"
  | .unquoted position =>
    s!"position {position}: attribute value must be enclosed in `\"` or `'`"
  | .unclosed position quote =>
    s!"position {position}: missing closing quote `{quote}` in attribute value"
  | .duplicate position earlier =>
    s!"position {position}: duplicated attribute, previous declaration at position {earlier}"

inductive EntityFault where
  | unterminated (start stop : Nat)
  | unknown (start stop : Nat) (name : String)
  | null (start stop : Nat)
  | longDecimal
  | longHexadecimal
  | badDecimal (c : Char)
  | badHexadecimal (c : Char)
  | notCharacter (code : Nat)
  deriving DecidableEq, Repr

def EntityFault.message : EntityFault → String
  | .unterminated start stop =>
    s!"Error while escaping character at range {start}..{stop}: Cannot find ';' after '&'"
  | .unknown start stop name =>
    s!"Error while escaping character at range {start}..{stop}: Unrecognized escape symbol: " ++
      Text.quoted name
  | .null start stop =>
    s!"Error while escaping character at range {start}..{stop}: " ++
      "Null character entity not allowed"
  | .longDecimal => "Cannot convert decimal to utf8"
  | .longHexadecimal => "Cannot convert hexadecimal to utf8"
  | .badDecimal c => s!"'{c}' is not a valid decimal character"
  | .badHexadecimal c => s!"'{c}' is not a valid hexadecimal character"
  | .notCharacter code => s!"'{code}' is not a valid codepoint"

/-- Why a document has no element tree. -/
inductive Fault where
  | unexpectedEnd (construct : Construct)
  | unknownBang (c : Char)
  | emptyDoctype
  | mismatchedEnd (expected found : String)
  | badAttribute (fault : AttributeFault)
  | badEntity (fault : EntityFault)
  | unbalancedEnd
  | unclosed (name : String)
  | noRoot
  | secondRoot
  /-- A fault that was found elsewhere, in its own words. -/
  | reported (detail : String)
  deriving DecidableEq, Repr

def Fault.message : Fault → String
  | .unexpectedEnd construct => "Unexpected EOF during reading " ++ construct.name
  | .unknownBang c =>
    "Only Comment (`--`), CDATA (`[CDATA[`) and DOCTYPE (`DOCTYPE`) nodes can start with " ++
      s!"a '!', but symbol `{c}` found"
  | .emptyDoctype => "DOCTYPE declaration must not be empty"
  | .mismatchedEnd expected found => s!"Expecting </{expected}> found </{found}>"
  | .badAttribute fault => fault.message
  | .badEntity fault => fault.message
  | .unbalancedEnd => "unbalanced end tag"
  | .unclosed name => s!"unclosed element <{name}>"
  | .noRoot => "document has no root element"
  | .secondRoot => "more than one root element"
  | .reported detail => detail

end SpatialFilter.Markup
