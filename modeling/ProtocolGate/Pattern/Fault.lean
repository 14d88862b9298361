import ProtocolGate.Text.Quoted

/-! Why a text is no match rule: the complaint, and where in the rule it arises. -/

namespace ProtocolGate.Pattern

inductive Complaint where
  | trailingBackslash
  | missingName (what : String)
  | unterminatedName (terminator : Char)
  | badGroupName (name : Text)
  | incompleteEscape (escape : Text)
  | badEscape (escape : Text)
  | missingBrace
  | undefinedCharacter (name : Text)
  | octalTooLarge (escape : Text)
  | openGroup
  | groupOfSameLookBehind
  | invalidGroup (index : Nat)
  | redefinedGroup (name : Text) (index earlier : Nat)
  | unknownGroup (name : Text)
  | badGroupNumber
  | unterminatedSet
  | badRange (first last : Text)
  | leastAboveMost
  | repetitionTooLarge
  | nothingToRepeat
  | multipleRepeat
  | unexpectedEnd
  | unknownExtension (extension : Text)
  | unterminatedComment
  | unterminatedGroup
  | unbalancedParenthesis
  | tooManyBranches
  | globalFlagsInside
  | localeFlag
  | clashingAlphabets
  | unknownFlag
  | missingFlagEnd
  | missingFlag
  | missingColon
  | fixedAlphabet
  | turnedOnAndOff
  | globalFlagOn
  | globalFlagOff
  | asciiWithUnicode
  | lookBehindWidth
  | lookBehindTooLong
  | templateRepeat (operator : String)
  | nestedTooDeep

namespace Complaint

def message : Complaint → String
  | trailingBackslash => "bad escape (end of pattern)"
  | missingName what => "missing " ++ what
  | unterminatedName terminator => "missing " ++ terminator.toString ++ ", unterminated name"
  | badGroupName name => "bad character in group name " ++ String.ofList (Text.quoted name)
  | incompleteEscape escape => "incomplete escape " ++ String.ofList escape
  | badEscape escape => "bad escape " ++ String.ofList escape
  | missingBrace => "missing \x7b"
  | undefinedCharacter name => "undefined character name " ++ String.ofList (Text.quoted name)
  | octalTooLarge escape =>
    "octal escape value " ++ String.ofList escape ++ " outside of range 0-0o377"
  | openGroup => "cannot refer to an open group"
  | groupOfSameLookBehind => "cannot refer to group defined in the same lookbehind subpattern"
  | invalidGroup index => "invalid group reference " ++ String.ofList (numeral index)
  | redefinedGroup name index earlier =>
    "redefinition of group name " ++ String.ofList (Text.quoted name) ++ " as group " ++
      String.ofList (numeral index) ++ "; was group " ++ String.ofList (numeral earlier)
  | unknownGroup name => "unknown group name " ++ String.ofList (Text.quoted name)
  | badGroupNumber => "bad group number"
  | unterminatedSet => "unterminated character set"
  | badRange first last =>
    "bad character range " ++ String.ofList first ++ "-" ++ String.ofList last
  | leastAboveMost => "min repeat greater than max repeat"
  | repetitionTooLarge => "the repetition number is too large"
  | nothingToRepeat => "nothing to repeat"
  | multipleRepeat => "multiple repeat"
  | unexpectedEnd => "unexpected end of pattern"
  | unknownExtension extension => "unknown extension ?" ++ String.ofList extension
  | unterminatedComment => "missing ), unterminated comment"
  | unterminatedGroup => "missing ), unterminated subpattern"
  | unbalancedParenthesis => "unbalanced parenthesis"
  | tooManyBranches => "conditional backref with more than two branches"
  | globalFlagsInside => "global flags not at the start of the expression"
  | localeFlag => "bad inline flags: cannot use 'L' flag with a str pattern"
  | clashingAlphabets => "bad inline flags: flags 'a', 'u' and 'L' are incompatible"
  | unknownFlag => "unknown flag"
  | missingFlagEnd => "missing -, : or )"
  | missingFlag => "missing flag"
  | missingColon => "missing :"
  | fixedAlphabet => "bad inline flags: cannot turn off flags 'a', 'u' and 'L'"
  | turnedOnAndOff => "bad inline flags: flag turned on and off"
  | globalFlagOn => "bad inline flags: cannot turn on global flag"
  | globalFlagOff => "bad inline flags: cannot turn off global flag"
  | asciiWithUnicode => "ASCII and UNICODE flags are incompatible"
  | lookBehindWidth => "look-behind requires fixed-width pattern"
  | lookBehindTooLong => "looks too much behind"
  | templateRepeat operator => "internal: unsupported template operator " ++ operator
  | nestedTooDeep => "rule is nested too deeply"

end Complaint

structure Fault where
  complaint : Complaint
  position : Option Nat := none

/-- The complaint and its place; a rule of several lines also gets the line and the column. -/
def Fault.message (fault : Fault) (rule : Text) : String :=
  match fault.position with
  | none => fault.complaint.message
  | some position =>
    let place := fault.complaint.message ++ " at position " ++ String.ofList (numeral position)
    if rule.contains '\n' then
      let earlier := rule.take position
      let line := earlier.count '\n' + 1
      let column := (earlier.reverse.takeWhile (· != '\n')).length + 1
      place ++ " (line " ++ String.ofList (numeral line) ++ ", column " ++
        String.ofList (numeral column) ++ ")"
    else
      place

end ProtocolGate.Pattern
