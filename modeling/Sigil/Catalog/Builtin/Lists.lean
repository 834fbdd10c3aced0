import Sigil.Catalog.Builtin.Entry

/-! # Lists and stored values

    Built-in variables of the categories `Array`, `Custom Variable`, `Effect Output`, `File`. -/

namespace Sigil.Builtin

/-- Variables of the category `Array`. -/
def arrayVariables : List Definition := inCategory "Array" [
    entry "$arrayAdd"
      "Returns a new array with the added element"
      [("$arrayAdd[\"[1,2,3]\", 4]",
        "Returns a new array with 4 added to the end of the array. (1,2,3,4)"),
       ("$arrayAdd[\"[1,2,3]\", 4, true]",
        "Returns a new array with 4 added to the start of the array. (4,1,2,3)"),
       ("$arrayAdd[rawArray, 4]",
        "Returns a new array with 4 added to the end of the raw array"),
       ("$arrayAdd[rawArray, 4, true]",
        "Returns a new array with 4 added to the start of the raw array")],
    entry "$arrayElement"
      "Returns the element at the given index of the input array."
      [("$arrayElement[\"[1,2,3]\", 0]",
        "Returns the element at the 0 index (1)"),
       ("$arrayElement[\"[1,2,3]\", first]",
        "Returns the element at the first index (1)"),
       ("$arrayElement[\"[1,2,3]\", last]",
        "Returns the element at the last index (3)"),
       ("$arrayElement[rawArray, 0]",
        "Returns the element at the 0 index"),
       ("$arrayElement[rawArray, first]",
        "Returns the element at the first index"),
       ("$arrayElement[rawArray, last]",
        "Returns the element at the last index")],
    entry "$arrayFilter"
      "Returns a new filtered array."
      [("$arrayFilter[\"[1,2,3]\", 1, null, false]",
        "Filter out anything that doesn't equal 1 (new array: [1])"),
       ("$arrayFilter[\"[1,2,3]\", 1, null, true]",
        "Filter out anything that equals 1 (new array: [2,3])"),
       ("$arrayFilter[\"[\x7b\\\"username\\\": \\\"ebiggz\\\"\x7d,\x7b\\\"username\\\": \\\"MageEnclave\\\"\x7d]\", ebiggz, username, true]",
        "Filter out anything that has a username property which equals \"ebiggz\" (new array: [\x7b\"username\": \"MageEnclave\"\x7d])")],
    entry "$arrayFindIndex"
      "Finds a matching element in the array and returns its index, or null if the element is absent."
      [("$arrayFindIndex[\"[\"a\",\"b\",\"c\"]\", b]",
        "Returns 1, the index of \"b\"."),
       ("$arrayFindIndex[\"[\x7b\"username\": \"alastor\"\x7d,\x7b\"username\": \"ebiggz\"\x7d]\", alastor, username]",
        "Returns 0, the index of the object where \"username\" equals \"alastor\"."),
       ("$arrayFindIndex[\"[0,1,2,\\\"1\\\"]\", \"1\", null, $true]",
        "Returns 3, the index of the text \"1\"."),
       ("$arrayFindIndex[rawArray, b]",
        "Returns the index of \"b\" in the raw array."),
       ("$arrayFindIndex[rawArray, value, key]",
        "Searches the array for an item with a key property equal to \"value\".")],
    entry "$arrayFindWithNull"
      "Finds a matching element in the array or returns a literal null."
      [("$arrayFindWithNull[\"[1,2,3]\", 1]",
        "Finds 1 in the array."),
       ("$arrayFindWithNull[\"[\x7b\"username\": \"ebiggz\"\x7d,\x7b\"username\": \"MageEnclave\"\x7d]\", ebiggz, username]",
        "Finds the object with username \"ebiggz\"."),
       ("$arrayFindWithNull[\"[0,1,2,\\\"1\\\"]\", 1, null, true]",
        "Returns the text \"1\"."),
       ("$arrayFindWithNull[rawArray, value]",
        "Searches each item in the array for \"value\" and returns the first matched item."),
       ("$arrayFindWithNull[rawArray, value, key]",
        "Searches each item in the array for an item that has a \"key\" property equal to \"value\".")],
    entry "$arrayFrom"
      "Returns a raw array containing the listed values."
      [("$arrayFrom[1, 2, 3]",
        "Returns [1, 2, 3]."),
       ("$arrayFrom[\"a\", \"b\", \"c\"]",
        "Returns [\"a\", \"b\", \"c\"].")],
    entry "$arrayJoin"
      "Returns a string with each array item joined together with the given separator."
      [("$arrayJoin[\"[1,2,3]\", \", \"]",
        "Returns \"1, 2, 3\"."),
       ("$arrayJoin[\"[\\\"apple\\\",\\\"banana\\\",\\\"cherry\\\"]\", \" - \"]",
        "Returns \"apple - banana - cherry\".")],
    entry "$arrayLength"
      "Returns the length of the input array."
      [("$arrayLength[\"[1,2,3]\"]",
        "Returns 3."),
       ("$arrayLength[rawArray]",
        "Returns the length of the raw array.")],
    entry "$arrayRandomItem"
      "Returns a random item from the given array."
      [("$arrayRandomItem[\"[1,2,3]\"]",
        "Returns a random item from the array [1,2,3]."),
       ("$arrayRandomItem[rawArray]",
        "Returns a random item from the raw array.")],
    entry "$arrayRemove"
      "Returns a new array with the element at the given index removed."
      [("$arrayRemove[\"[1,2,3]\", 0]",
        "Removes the element at index 0. Result: [2,3]."),
       ("$arrayRemove[\"[1,2,3]\", first]",
        "Removes the first element. Result: [2,3]."),
       ("$arrayRemove[\"[1,2,3]\", last]",
        "Removes the last element. Result: [1,2]."),
       ("$arrayRemove[rawArray, 0]",
        "Removes the element at index 0 from the raw array."),
       ("$arrayRemove[rawArray, first]",
        "Removes the first element from the raw array."),
       ("$arrayRemove[rawArray, last]",
        "Removes the last element from the raw array.")],
    entry "$arrayReverse"
      "Returns a new reversed array."
      [("$arrayReverse[\"[1,2,3]\"]",
        "Returns [3,2,1]."),
       ("$arrayReverse[rawArray]",
        "Returns the reversed raw array.")],
    entry "$arrayShuffle"
      "Returns a new shuffled array."
      [("$arrayShuffle[\"[1,2,3]\"]",
        "Returns a shuffled version of [1,2,3], e.g., [2,1,3]."),
       ("$arrayShuffle[rawArray]",
        "Returns a shuffled version of the raw array.")],
    deprecated "Use $arrayFilter instead" "$arrayFilter" <| entry "$rawArrayFilter"
      "Returns a new filtered raw array."
      [("$rawArrayFilter[rawArray, 1, null, false]",
        "Filter out anything that doesn't equal 1"),
       ("$rawArrayFilter[rawArray, 1, null, true]",
        "Filter out anything that equals 1"),
       ("$rawArrayFilter[rawArray, value, key, true]",
        "Filter out any item in the array that has a key property twitch equals \"value\"")]]

/-- Variables of the category `Custom Variable`. -/
def customVariableVariables : List Definition := inCategory "Custom Variable" [
    nesting <| entry "$$"
      "Retrieves the value for a customVariable. If path is specified, walks the item before returning the value"
      [("$$example",
        "Returns the value of the customVariable 'example'; Synonymous with $customVariable[example]"),
       ("$$example[path, to, value]",
        "Returns the value of the customVariable 'example'; Synonymous with $customVariable[example, path.to.value]")],
    entry "$customVariable"
      "Get the data saved in the custom variable."
      [("$customVariable[name, 1]",
        "Get an array item by providing an array index as a second argument."),
       ("$customVariable[name, property]",
        "Get a property by providing a property path (using dot notation) as a second argument."),
       ("$customVariable[name, null, exampleString]",
        "Set a default value in case the custom variable doesn't exist yet.")],
    entry "$customVariableKeys"
      "Get the array of keys for an object saved in the custom variable."
      [("$customVariableKeys[name, 1]",
        "Get the array of keys for an object which is an array item by providing an array index as a second argument."),
       ("$customVariableKeys[name, property]",
        "Get the array of keys for an object property by providing a property path (using dot notation) as a second argument.")],
    entry "$rawCustomVariable"
      "Get the data saved in the custom variable."
      [("$rawCustomVariable[name, 1]",
        "Get an array item by providing an array index as a second argument."),
       ("$rawCustomVariable[name, property]",
        "Get a property by providing a property path (using dot notation) as a second argument."),
       ("$rawCustomVariable[name, null, exampleString]",
        "Set a default value in case the custom variable doesn't exist yet.")],
    entry "$rawCustomVariableKeys"
      "Get the array of keys for an object saved in the custom variable."
      [("$rawCustomVariableKeys[name, property|index]",
        "Get the array of keys for an object property by providing a property path (using dot notation) as a second argument.")]]

/-- Variables of the category `Effect Output`. -/
def effectOutputVariables : List Definition := inCategory "Effect Output" [
    nesting <| entry "$&"
      "Retrieves the value for an effectOutput. If path is specified, walks the item before returning the value"
      [("$&example",
        "Returns the value of the effectOutput 'example'; Synonymous with $effectOutput[example]"),
       ("$&example[path, to, value]",
        "Returns the value of the effectOutput 'example'; Synonymous with $effectOutput[example, path.to.value]")],
    entry "$effectOutput"
      "Get data that was outputted by a prior effect."
      [("$effectOutput[name, 1]",
        "Get an array item by providing an array index as a second argument."),
       ("$effectOutput[name, property]",
        "Get a property by providing a property path (using dot notation) as a second argument."),
       ("$effectOutput[name, null, exampleString]",
        "Set a default value in case the effect output doesn't exist yet."),
       ("$effectOutput[name, property, exampleString]",
        "Set a default value in case the effect output doesn't have data at the specified property path.")],
    entry "$effectQueueLength"
      "Returns the length of an effect queue. Useful for showing queue length in a command response."
      [("$effectQueueLength[queueName]",
        "Returns the current number of effects waiting in the specified queue")]]

/-- Variables of the category `File`. -/
def fileVariables : List Definition := inCategory "File" [
    entry "$audioDuration"
      "Attempts to retrieve the duration of an audio file."
      [("$audioDuration[\"path/to/audio.mp3\"]",
        "Returns the duration of the audio file in seconds."),
       ("$audioDuration[\"https://example.com/audio.mp3\"]",
        "Returns the duration of the audio file from a URL in seconds.")],
    entry "$fileExists"
      "Returns true if a file exists, otherwise returns false."
      [("$fileExists[path/to/file.txt]",
        "Returns true if the specified file exists")],
    entry "$fileLineCount"
      "Count the number of lines in a text file."
      [("$fileLineCount[path/to/file.txt]",
        "Returns the number of lines in the specified file")],
    entry "$filesInDirectory"
      "Returns an array of full filepaths in the given directory. Does not include subdirectories"
      [("$filesInDirectory[path\\to\\dir\\, regexp, flags]",
        "Lists files matching the regexp filter")],
    entry "$readFile"
      "Read contents of a text file."
      [("$readFile[path\\to\\file.txt, 1]",
        "Read a specific line number from the file."),
       ("$readFile[path\\to\\file.txt, first]",
        "Read the first line from the file."),
       ("$readFile[path\\to\\file.txt, first, true]",
        "Removes leading, trailing, and empty lines before grabbing the first line"),
       ("$readFile[path\\to\\file.txt, last]",
        "Read the last line from the file."),
       ("$readFile[path\\to\\file.txt, last, true]",
        "Removes leading, trailing, and empty lines before grabbing the last line"),
       ("$readFile[path\\to\\file.txt, random]",
        "Read a random line from the file."),
       ("$readFile[path\\to\\file.txt, random, true]",
        "Removes leading, trailing, and empty lines before grabbing a random line")],
    entry "$videoDuration"
      "Attempts to retrieve the duration of a video file."
      [("$videoDuration[\"path/to/video.mp4\"]",
        "Returns the duration of the video file in seconds."),
       ("$videoDuration[\"https://example.com/video.mp4\"]",
        "Returns the duration of the video file from a URL in seconds.")]]

end Sigil.Builtin
