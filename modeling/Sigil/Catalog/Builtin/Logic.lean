import Sigil.Catalog.Builtin.Entry

/-! # Logic, arithmetic and time

    Built-in variables of the categories `Logic`, `Math`, `Time`. -/

namespace Sigil.Builtin

/-- Variables of the category `Logic`. -/
def logicVariables : List Definition := inCategory "Logic" [
    nesting <| entry "$ALL"
      "Returns true if all of the conditions are true. Only works within $if[]"
      [("$ALL[a === a, b === b]",
        "Returns true as a equals a and b equals b")],
    nesting <| entry "$AND"
      "Returns true if all of the conditions are true. Only works within $if[]"
      [("$AND[a === a, b === b]",
        "Returns true as a equals a and b equals b")],
    nesting <| entry "$ANY"
      "Returns true if any of the conditions are true. Only works within $if[]"
      [("$ANY[a === b, c === c]",
        "Returns true as c equals c")],
    entry "$NALL"
      "Returns true if any of the conditions return false"
      [("$NALL[a === a, b === c]",
        "Returns true as b does not equals c")],
    entry "$NAND"
      "Returns true if any of the conditions return false"
      [("$NAND[a === a, b === c]",
        "Returns true as b does not equals c")],
    entry "$NANY"
      "Returns true if all of the conditions return false"
      [("$NANY[a === b, b === c]",
        "Returns true as a does not equal be and b does not equals c")],
    entry "$NOR"
      "Returns true if all of the conditions return false"
      [("$NOR[a === b, b === c]",
        "Returns true as a does not equal be and b does not equals c")],
    entry "$NOT"
      "Returns the opposite of the condition's result. Only works within $if[]"
      [("$NOT[1 === 1]",
        "Returns false as the condition is true")],
    entry "$OR"
      "Returns true if any of the conditions are true. Only works within $if[]"
      [("$OR[a === b, c === c]",
        "Returns true as c equals c")],
    entry "$false"
      "Returns a literal false boolean value; Useful in comparisons such as in $if[]" [],
    nesting <| entry "$if"
      "Returns the parameter based on the condition's result."
      [("$if[$user === Jim, JIM]",
        "Returns JIM if the user is Jim, otherwise returns empty text"),
       ("$if[$user === Jim, JIM, JOHN]",
        "Returns JIM if the user is Jim, otherwise returns JOHN")],
    entry "$null"
      "Returns a literal null value; Useful in comparisons such as in $if[]" [],
    entry "$true"
      "Returns a literal true boolean value; Useful in comparisons such as in $if[]" []]

/-- Variables of the category `Math`. -/
def mathVariables : List Definition := inCategory "Math" [
    nesting <| entry "$ceil"
      "Rounds up the given number to the nearest whole number."
      [("$ceil[3.2]",
        "Returns 4")],
    defaulting <| nesting <| entry "$ensureNumber"
      "Guarantees a number output. If the input is a number, it is passed through. If it's not, the given default number is used instead."
      [("$ensureNumber[input, defaultNumber]",
        "Returns input if it's a number, otherwise returns defaultNumber"),
       ("$ensureNumber[$floor[$presetListArg[Widget Width]], 475]",
        "Returns the floored widget width if valid, otherwise returns 475")],
    nesting <| entry "$floor"
      "Rounds down the given number to the nearest whole number."
      [("$floor[3.7]",
        "Returns 3"),
       ("$floor[$presetListArg[Number]]",
        "Rounds down the preset list argument value")],
    nesting <| entry "$math"
      "Evaluate a math equation using math.js"
      [("$math[2 + 2]",
        "Simple addition calculation returns 4"),
       ("$math[5 * (3 + 2)]",
        "Complex calculation returns 25")],
    nesting <| entry "$max"
      "Returns the highest-value number passed"
      [("$max[1, 5, 3, 10]",
        "Returns 10, the highest value from the input numbers")],
    nesting <| entry "$min"
      "Returns the lowest-value number passed"
      [("$min[1, 5, 3, 10]",
        "Returns 1, the lowest value from the input numbers")],
    entry "$padNumber"
      "Pads the given number up to the specified number of decimal places."
      [("$padNumber[5, 2]",
        "Returns \"5.00\" - pads to 2 decimal places")],
    entry "$randomNumber"
      "Get a random number between the given range."
      [("$randomNumber[1, 100]",
        "Returns a random number between 1 and 100 inclusive"),
       ("$randomNumber[0, 10]",
        "Returns a random number between 0 and 10 inclusive")],
    nesting <| entry "$round"
      "Rounds the given number to the nearest whole number."
      [("$round[num, places]",
        "Rounds the given number to the specified number of decimal places.")]]

/-- Variables of the category `Time`. -/
def timeVariables : List Definition := inCategory "Time" [
    entry "$date"
      "The current date formatted as MMM Do YYYY"
      [("$date[dddd MMMM Do]",
        "Format with the preferred tokens."),
       ("$date[MMM Do YYYY, 2, days]",
        "Adds 2 days to the current date (or use other units i.e. months, years, etc.)."),
       ("$date[MMM Do YYY, -2, days]",
        "Subtract 2 days from the current date (or use other units i.e. months, years, etc.).")],
    entry "$discordTimestamp"
      "Outputs a discord timestamp that shows the appropriate time for all users in their own timezone."
      [("$discordTimestamp[]",
        "Create discord timestamp using your current time."),
       ("$discordTimestamp[2076-01-26 13:00:00]",
        "Create discord timestamp using specified time, in default discord format."),
       ("$discordTimestamp[2076-01-26 13:00:00:t]",
        "Create a 'short time' discord timestamp. EX: 01:00 | 1:00 PM"),
       ("$discordTimestamp[2076-01-26 13:00:00:T]",
        "Create a 'long time' discord timestamp. EX: 01:00:00 | 01:00:00 PM"),
       ("$discordTimestamp[2076-01-26 13:00:00:d]",
        "Create a 'short date' discord timestamp. EX: 1/26/2076 | 26/01/2076"),
       ("$discordTimestamp[2076-01-26 13:00:00:D]",
        "Create a 'long date' discord timestamp. EX: January 26, 2076 | 26 January 2076"),
       ("$discordTimestamp[2076-01-26 13:00:00:f]",
        "Create a 'short date/time' discord timestamp. EX: January 26, 2076 1:00 PM | 26 January 2076 13:00"),
       ("$discordTimestamp[2076-01-26 13:00:00:F]",
        "Create a 'long date/time' discord timestamp. EX: Sunday, January 26, 2076 1:00 PM | Sunday, 26 January 2076, 13:00"),
       ("$discordTimestamp[2076-01-26 13:00:00:R]",
        "Create a 'relative' discord timestamp. EX: 'in 53 years' | 'in 23 minutes'")],
    flexible <| entry "$time"
      "Outputs the current time."
      [("$time[format]",
        "Outputs the current time in a specific format. Format uses moment.js formatting rules.")],
    flexible <| entry "$unixTimestamp"
      "The current date formatted as seconds since January 1, 1970 00:00:00 UTC"
      [("$unixTimestamp[2011-03-18 18:49 UTC]",
        "Unix timestamp for provided date"),
       ("$unixTimestamp[07/28/2024, MM/DD/YYYY]",
        "Unix timestamp for provided date with specified format"),
       ("$unixTimestamp[$accountCreationDate]",
        "Unix timestamp for provided account creation date"),
       ("$unixTimestamp[$date[MMM Do YYYY, -14, days], MMM Do YYYY]",
        "Unix timestamp for date variable set to 2 weeks ago formatted as MMM Do YYYY")]]

end Sigil.Builtin
