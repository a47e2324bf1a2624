/-! # Faults of Perl expressions -/

namespace FixtureHarness.Regex.Perl

/-- What is wrong with an expression. -/
inductive Fault where
  | escapeAtEnd
  | controlAtEnd
  | unknownEscape
  | boundsOutOfOrder
  | boundsTooBig
  | unclosedClass
  | escapeInClass
  | rangeOutOfOrder
  | nothingToRepeat
  | unknownGroupKind
  | classOutsideBrackets
  | collatingElement
  | unclosedGroup
  | unopenedGroup
  | missingGroup
  | unclosedComment
  | variableLookbehind
  | relativeZero
  | unknownClassName
  | caseEscape
  | unknownNameKind
  | unclosedName
  | repeatedName
  | nameStartsWithDigit
  | nameTooLong
  | invalidRange
  | octalTooBig
  | noOctalBrace
  | badGroupReference
  | unknownVerb
  | unknownAssertion
  | missingName
  | badOctal
  | badHexadecimal
  | controlNotPrintable
  | badNameReference
  | noLineFeedInClass
  | codeTooBig
  | missingDigits
  | codePointName
  | unknownProperty
  | badProperty
  deriving DecidableEq, Repr

/-- The text about a fault. -/
def Fault.message : Fault → String
  | escapeAtEnd => "\\ at end of pattern"
  | controlAtEnd => "\\c at end of pattern"
  | unknownEscape => "unrecognized character follows \\"
  | boundsOutOfOrder => "numbers out of order in \x7b\x7d quantifier"
  | boundsTooBig => "number too big in \x7b\x7d quantifier"
  | unclosedClass => "missing terminating ] for character class"
  | escapeInClass => "escape sequence is invalid in character class"
  | rangeOutOfOrder => "range out of order in character class"
  | nothingToRepeat => "quantifier does not follow a repeatable item"
  | unknownGroupKind => "unrecognized character after (? or (?-"
  | classOutsideBrackets => "POSIX named classes are supported only within a class"
  | collatingElement => "POSIX collating elements are not supported"
  | unclosedGroup => "missing closing parenthesis"
  | unopenedGroup => "unmatched closing parenthesis"
  | missingGroup => "reference to non-existent subpattern"
  | unclosedComment => "missing ) after (?# comment"
  | variableLookbehind => "lookbehind assertion is not fixed length"
  | relativeZero => "a relative value of zero is not allowed"
  | unknownClassName => "unknown POSIX class name"
  | caseEscape => "PCRE2 does not support \\F, \\L, \\l, \\N\x7bname\x7d, \\U, or \\u"
  | unknownNameKind => "unrecognized character after (?P"
  | unclosedName => "syntax error in subpattern name (missing terminator?)"
  | repeatedName => "two named subpatterns have the same name (PCRE2_DUPNAMES not set)"
  | nameStartsWithDigit => "subpattern name must start with a non-digit"
  | nameTooLong => "subpattern name is too long (maximum 32 code units)"
  | invalidRange => "invalid range in character class"
  | octalTooBig => "octal value is greater than \\377 in 8-bit non-UTF-8 mode"
  | noOctalBrace => "missing opening brace after \\o"
  | badGroupReference =>
    "\\g is not followed by a braced, angle-bracketed, or quoted name/number or by a plain number"
  | unknownVerb => "(*VERB) not recognized or malformed"
  | unknownAssertion => "(*alpha_assertion) not recognized"
  | missingName => "subpattern name expected"
  | badOctal => "non-octal character in \\o\x7b\x7d (closing brace missing?)"
  | badHexadecimal => "non-hex character in \\x\x7b\x7d (closing brace missing?)"
  | controlNotPrintable => "\\c must be followed by a printable ASCII character"
  | badNameReference => "\\k is not followed by a braced, angle-bracketed, or quoted name"
  | noLineFeedInClass => "\\N is not supported in a class"
  | codeTooBig => "character code point value in \\x\x7b\x7d or \\o\x7b\x7d is too large"
  | missingDigits => "digits missing in \\x\x7b\x7d or \\o\x7b\x7d or \\N\x7bU+\x7d"
  | codePointName => "\\N\x7bU+dddd\x7d is supported only in Unicode (UTF) mode"
  | unknownProperty => "unknown property after \\P or \\p"
  | badProperty => "malformed \\P or \\p sequence"

end FixtureHarness.Regex.Perl
