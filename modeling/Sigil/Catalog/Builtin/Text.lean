import Sigil.Catalog.Builtin.Entry

/-! # Text

    Built-in variables of the category `Text`. -/

namespace Sigil.Builtin

/-- Variables of the category `Text`. -/
def textVariables : List Definition := inCategory "Text" [
    entry "$capitalize"
      "Capitalizes the given text."
      [("$capitalize[\"hello world\"]",
        "Returns \"Hello world\".")],
    entry "$commafy"
      "Adds the appropriate commas to a number."
      [("$commafy[1000000]",
        "Returns \"1,000,000\"")],
    entry "$concat"
      "Appends text together"
      [("$concat[Hello, \" \", World]",
        "Returns \"Hello World\"")],
    entry "$decodeFromHtml"
      "Decodes input text from an HTML-encoded string"
      [("$decodeFromHtml[text]",
        "Returns the decoded version of the HTML-encoded text")],
    entry "$decodeFromUrl"
      "Decodes input text from a URL-encoded string"
      [("$decodeFromUrl[text]",
        "Returns the decoded version of the URL-encoded text")],
    entry "$encodeForHtml"
      "Encodes input text for safe use within HTML templates"
      [("$encodeForHtml[<p>Hello & Welcome!</p>]",
        "Returns \"&lt;p&gt;Hello &amp; Welcome!&lt;/p&gt;\"")],
    entry "$encodeForUrl"
      "Encodes input text for use in a URL"
      [("$encodeForUrl[Hello World!]",
        "Returns \"Hello%20World%21\"")],
    entry "$lowercase"
      "Makes the entire given text string lowercase."
      [("$lowercase[Some Text]",
        "Returns \"some text\"")],
    entry "$ordinalIndicator"
      "Adds an ordinal indicator suffix to a number (ie 'st', 'nd', 'rd')"
      [("$ordinalIndicator[1]",
        "Returns \"1st\""),
       ("$ordinalIndicator[2]",
        "Returns \"2nd\"")],
    entry "$regexExec"
      "Filter a string with a regular expression"
      [("$regexExec[string, expression, flags]",
        "Add flags to the regex evaluation.")],
    entry "$regexMatches"
      "Filter a string with a regular expression and return an array of all matches"
      [("$regexMatches[string, expression, flags]",
        "Add flags to the regex evaluation.")],
    entry "$regexTest"
      "Check whether a string matches a regular expression"
      [("$regexTest[string, expression, flags]",
        "Add flags to the regex evaluation.")],
    entry "$replace"
      "Replaces a search value with a replacement value"
      [("$replace[textInput, searchValue, replacement, true]",
        "Allows searching using a regular expression."),
       ("$replace[textInput, searchValue, replacement, true, flags]",
        "Add flags when using a regular expression.")],
    entry "$scrambleText"
      "Scrambles the input text"
      [("$scrambleText[Hello World]",
        "Returns the text with characters randomly rearranged")],
    entry "$splitText"
      "Splits text with the given separator and returns an array. Useful for Custom Variables."
      [("$splitText[text, separator]",
        "Returns array of substrings split on separator")],
    entry "$textContains"
      "Returns true if text contains search, otherwise returns false"
      [("$textContains[text, search]",
        "Returns true if text contains the search string, false otherwise")],
    entry "$textLength"
      "Returns the length of the input text"
      [("$textLength[text]",
        "Returns the number of characters in the input text")],
    entry "$textPadEnd"
      "Pads the end of text"
      [("$textPadEnd[input, count, $false, \" \"]",
        "Adds 'count' number of spaces to the end of input"),
       ("$textPadEnd[input, count, $true, \" \"]",
        "Adds spaces to the end of the input until the length of the output equals 'count'")],
    entry "$textPadStart"
      "Pads the start of text"
      [("$textPadStart[input, count, $false, \" \"]",
        "Adds 'count' number of spaces to the start of input"),
       ("$textPadStart[input, count, $true, \" \"]",
        "Adds spaces to the start of the input until the length of the output equals 'count'")],
    entry "$textSubstring"
      "Returns a substring of the provided text based on the range"
      [("$textSubstring[text, start, end]",
        "Returns portion of text from start index to end index")],
    entry "$trim"
      "Removes any whitespace from the beginning and end of input text."
      [("$trim[  text with spaces  ]",
        "Returns \"text with spaces\" without leading or trailing spaces")],
    entry "$trimEnd"
      "Removes any whitespace from the end of input text."
      [("$trimEnd[text]",
        "Returns text with trailing whitespace removed")],
    entry "$trimStart"
      "Removes any whitespace from the beginning of input text."
      [("$trimStart[text]",
        "Returns text with leading whitespace removed")],
    entry "$uppercase"
      "Makes the entire given text string uppercase."
      [("$uppercase[Some Text]",
        "Returns \"SOME TEXT\"")],
    entry "$word"
      "Get a word at the specified position in a given sentence"
      [("$word[This is a test, 4]",
        "Get the 4th word. In this example: 'test'")]]

end Sigil.Builtin
