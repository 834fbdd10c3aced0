import Sigil.Catalog.Builtin.Entry

/-! # Common variables

    Built-in variables of the category `Common`. -/

namespace Sigil.Builtin

/-- Variables of the category `Common`. -/
def commonVariables : List Definition := inCategory "Common" [
    entry "$convertFromJSON"
      "Converts JSON text into a raw object instance"
      [("$convertFromJSON['\x7b\"name\": \"John\", \"age\": 30\x7d']",
        "Returns a raw object from JSON string")],
    entry "$convertToJSON"
      "Converts a raw value into JSON text"
      [("$convertToJSON[rawValue, true]",
        "Converts a raw value into pretty-printed JSON text")],
    entry "$counter"
      "Displays the value of the given counter."
      [("$counter[name]",
        "Returns the value of the specified counter")],
    entry "$currency"
      "How much of the given currency the given user has."
      [("$currency[currencyName]",
        "Returns the amount of specified currency for the current user"),
       ("$currency[currencyName, username]",
        "Returns the amount of specified currency for the given user")],
    entry "$currencyRank"
      "Returns the rank of the given user based on how much of the given currency they have."
      [("$currencyRank[currencyName]",
        "Returns the rank for the current user in the specified currency"),
       ("$currencyRank[currencyName, username]",
        "Returns the rank for the specified user in the specified currency")],
    entry "$evalJs"
      "Evaluates the given js in a sandboxed browser instance."
      [("$evalJs[``return parameters[0]``, test]",
        "Returns the first parameter passed to $evalJS: \"test\""),
       ("$evalJs[``return metadata.username``]",
        "Returns the username from the event's metadata"),
       ("$evalJs[``return await Firebot.sum[1,2,3,4]``]",
        "Calls the sum firebot api and returns the result")],
    entry "$evalVars"
      "Evaluate $variables in a string of text. Useful for evaluating text $vars from an external source (ie a txt file or API)" [],
    entry "$loopCount"
      "0 based count for the current loop iteration inside of a Loop Effects effect" [],
    entry "$loopItem"
      "The item for current loop iteration inside of a Loop Effects effect using Array loop mode" [],
    entry "$objectWalkPath"
      "Returns the value from an object at the given dot-notated path"
      [("$objectWalkPath[object, path.to.property]",
        "Retrieves nested property value using dot notation")],
    entry "$profilePageBytebinToken"
      "Get bytebin id for streamer profile. Access the json by going to https://bytebin.lucko.me/ID-HERE." [],
    entry "$quickStore"
      "Retrieves or stores a value until the expression has finished evaluation"
      [("$quickStore[name, value]",
        "Stores \"value\" under the key \"name\""),
       ("$quickStore[name]",
        "Retrieves the value of what was stored under the key of \"name\"")],
    flexible <| entry "$quote"
      "Get a random quote"
      [("$quote",
        "Returns a random quote"),
       ("$quote[#]",
        "Returns the quote with the specified ID")],
    entry "$quoteAsObject"
      "Get a random quote in the form of a JSON Object."
      [("$quoteAsObject[#]",
        "Get a specific quote id."),
       ("$quoteAsObject[#, property]",
        "Get only a specific property for a specific quote. Valid properties are id, createdAt, creator, originator, text and game."),
       ("$quoteAsObject[null, property]",
        "Get only a specific property for a random quote. Valid properties are id, createdAt, creator, originator, text and game.")],
    entry "$randomAdvice"
      "Get some random advice!" [],
    entry "$randomDadJoke"
      "Get a random dad joke!" [],
    entry "$randomRedditImage"
      "Get a random image from a subreddit. (We do our best to check for bad images, but content warning none the less.)"
      [("$randomRedditImage[aww]",
        "Returns a random image URL from the r/aww subreddit")],
    entry "$randomUUID"
      "Returns a random formated UUID eg 00000000-0000-0000-0000-000000000000" [],
    deprecated "Use $quoteAsObject instead" "$quoteAsObject" <| entry "$rawQuoteAsObject"
      "Get a random quote in the form of a raw Object."
      [("$rawQuoteAsObject[#]",
        "Get a specific quote id."),
       ("$rawQuoteAsObject[#, property]",
        "Get only a specific property for a specific quote. Valid properties are id, createdAt, creator, originator, text and game."),
       ("$rawQuoteAsObject[null, property]",
        "Get only a specific property for a random quote. Valid properties are id, createdAt, creator, originator, text and game.")],
    deprecated "Use $topCurrency instead" "$topCurrency" <| entry "$rawTopCurrency"
      "Returns a raw array containing those with the most of the specified currency. Items in the array contain 'place', 'username' and 'amount' properties"
      [("$rawTopCurrency[Points]",
        "Returns array of top 10 users with their Points amounts"),
       ("$rawTopCurrency[Points, 5]",
        "Returns array of top 5 users with their Points amounts")],
    deprecated "Use $topMetadata instead" "$topMetadata" <| entry "$rawTopMetadata"
      "Returns a raw array of users with the most of a given metadata key. Items contain 'username', 'place' and 'amount' properties"
      [("$rawTopMetadata[deaths]",
        "Returns array of top 10 users with their death counts"),
       ("$rawTopMetadata[deaths, 5]",
        "Returns array of top 5 users with their death counts")],
    entry "$readApi"
      "Calls the given URL and returns the response as a string."
      [("$readApi[url, object.path.here]",
        "Traverse a JSON response object.")],
    entry "$rollDice"
      "Rolls some dice based on the provided config, ie 2d6 or 2d10+1d12 or 1d10+3"
      [("$rollDice[1d6]",
        "Roll one 6-sided dice, outputs the sum"),
       ("$rollDice[2d10+1d12]",
        "Roll two 10-sided dice and one 12-sided die, outputs the sum"),
       ("$rollDice[2d6, show each]",
        "Outputs text containing both the sum of all roles and the values or each individual roll. IE: '10 (4, 6)'")],
    entry "$runEffect"
      "Run an effect defined as json. Outputs an empty string. Please keep in mind that the power and flexibility afforded by this variable means it is very error prone. Only use if you know what you are doing."
      [("$runEffect[``\x7b\"type\":\"firebot:chat\",\"message\":\"Hello world\"\x7d``]",
        "Runs a chat message effect. You can get an effects JSON data via the UI via the overflow menu in the top right of the Edit Effect modal. (Copy Effect Json > For $runEffect[])")],
    entry "$setObjectProperty"
      "Adds or updates a property's value in the given JSON object. For nested properties, you can use dot notation (e.g. some.property). Set value to null to remove property."
      [("$setObjectProperty[\x7b\"name\": \"John\"\x7d, age, 25]",
        "Adds/updates the age property to 25. Result: \x7b\"name\": \"John\", \"age\": 25\x7d"),
       ("$setObjectProperty[\x7b\"user\": \x7b\"name\": \"John\"\x7d\x7d, user.age, 25]",
        "Adds/updates a nested property using dot notation. Result: \x7b\"user\": \x7b\"name\": \"John\", \"age\": 25\x7d\x7d"),
       ("$setObjectProperty[\x7b\"name\": \"John\", \"age\": 25\x7d, age, null]",
        "Removes the age property. Result: \x7b\"name\": \"John\"\x7d")],
    entry "$topCurrency"
      "Comma separated list of users with the most of the given currency. Defaults to top 10, you can provide a custom number as a second argument."
      [("$topCurrency[Points]",
        "Returns comma-separated list of top 10 users with their Points amounts"),
       ("$topCurrency[Points, 5]",
        "Returns comma-separated list of top 5 users with their Points amounts")],
    entry "$topCurrencyUser"
      "Get the username or amount for a specific position in the top currency"
      [("$topCurrencyUser[Points, 1, username]",
        "Get the top Points username"),
       ("$topCurrencyUser[Points, 5, amount]",
        "Get the top Points amount at 5th position")],
    entry "$topMetadata"
      "Comma separated list of users with the most of the given metadata key. Defaults to top 10, you can provide a custom number as a second argument."
      [("$topMetadata[deaths]",
        "Returns comma-separated list of top 10 users with their death counts"),
       ("$topMetadata[deaths, 5]",
        "Returns comma-separated list of top 5 users with their death counts")],
    entry "$topMetadataUser"
      "Get the username or amount for a specific position in the top metadata list"
      [("$topMetadataUser[slaps, 1, username]",
        "Get the username for the top slapper"),
       ("$topMetadataUser[slaps, 5, amount]",
        "Get the number of slaps for the top 5th slapper")]]

end Sigil.Builtin
