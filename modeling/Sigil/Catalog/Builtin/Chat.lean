import Sigil.Catalog.Builtin.Entry

/-! # Chat and commands

    Built-in variables of the categories `Chat`, `Command`. -/

namespace Sigil.Builtin

/-- Variables of the category `Chat`. -/
def chatVariables : List Definition := inCategory "Chat" [
    entry "$activeChatUserCount"
      "Get the number of active viewers in chat." [],
    entry "$chatMessage"
      "Outputs the chat message from the associated command or event." [],
    entry "$chatMessageAnimatedEmoteUrls"
      "Outputs the URLs of a chat message's animated emotes from the associated command or event. Any emotes that don't have an animated version will return an empty string."
      [("$chatMessageAnimatedEmoteUrls[1]",
        "Get the URL of a specific animated emote. If the emote isn't animated, the result will return an empty string.")],
    entry "$chatMessageEmoteNames"
      "Outputs the names of a chat message's emotes from the associated command or event."
      [("$chatMessageEmoteNames[1]",
        "Get the name of a specific emote.")],
    entry "$chatMessageEmoteUrls"
      "Outputs the urls of a chat message's emotes from the associated command or event."
      [("$chatMessageEmoteUrls[1]",
        "Get the url of a specific emote.")],
    entry "$chatMessageId"
      "Outputs the chat message ID from the associated command or event." [],
    entry "$chatMessageTextOnly"
      "Outputs the chat message text from the associated command or chat event, with any emotes, URLs, or cheermotes removed"
      [("$chatMessageTextOnly",
        "Gets the message text with the command trigger removed, and with any emotes, URLs, or cheermotes removed."),
       ("$chatMessageTextOnly[true]",
        "Gets the message text with the command trigger removed, and with any emotes, URLs, or cheermotes removed."),
       ("$chatMessageTextOnly[false]",
        "Gets the message text (including command trigger) with any emotes, URLS, or cheermotes removed.")],
    flexible <| entry "$chatMessages"
      "Displays the number of chat messages for a viewer (leave blank to use current viewer)"
      [("$chatMessages[username]",
        "Returns the number of chat messages for the specified user"),
       ("$chatMessages",
        "Returns the number of chat messages for the current viewer")],
    entry "$chatUserColor"
      "Outputs the chatters display color from a command or event."
      [("$chatUserColor[$target]",
        "When in a command, gets the users color for the target user."),
       ("$chatUserColor[$user]",
        "Gets the color for associated user (Ie who triggered command, pressed button, etc).")],
    entry "$isUserInChat"
      "Outputs true if a user is currently connected to Twitch chat, false if not"
      [("$isUserInChat[username]",
        "Returns true if the specified user is connected to chat, false otherwise")],
    entry "$isWhisper"
      "Returns true if the chat message that triggered a command is a whisper, otherwise returns false." []]

/-- Variables of the category `Command`. -/
def commandVariables : List Definition := inCategory "Command" [
    entry "$arg"
      "Grabs the command argument (aka a word after the command !trigger) at the given index."
      [("$arg[1,2]",
        "Grab a range of args."),
       ("$arg[2,last]",
        "Grab a range of args up to the last arg."),
       ("$arg[all]",
        "Grab all args. This is a good way to grab all text after the !command trigger.")],
    entry "$argArray"
      "Returns an array of command arguments" [],
    entry "$argCount"
      "Returns the number of command args." [],
    entry "$commandTrigger"
      "The trigger of the issued command." [],
    entry "$count"
      "Displays the number of times the given command has been run." [],
    entry "$presetListArg"
      "Represents the given argument passed to this preset effect list."
      [("$presetListArg[name]",
        "Get the argument with the name \"name\" passed to this preset list effect")],
    deprecated "Use $argArray instead" "$argArray" <| entry "$rawArgArray"
      "Returns the raw array of command arguments" [],
    entry "$target"
      "Similar to the $arg variable but strips out any leading '@' symbols. Useful when the argument is expected to be a username."
      [("$target[#]",
        "Grab the target at the given index (IE with '!command @ebiggz @TheLastMage', $target[2] would be 'TheLastMage')")]]

end Sigil.Builtin
