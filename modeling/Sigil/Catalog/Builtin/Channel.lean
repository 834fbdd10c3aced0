import Sigil.Catalog.Builtin.Entry

/-! # Channels

    Built-in variables of the categories `Channel`, `Bits`. -/

namespace Sigil.Builtin

/-- Variables of the category `Channel`. -/
def channelVariables : List Definition := inCategory "Channel" [
    alsoCalled ["$game"] <| entry "$category"
      "Gets the current category/game set for your channel."
      [("$category[$target]",
        "Gets the category/game set for the target user."),
       ("$category[$user]",
        "Gets the category/game set for the associated user."),
       ("$category[ChannelOne]",
        "Gets the category/game set for a specific channel.")],
    entry "$categoryImageUrl"
      "Gets the URL for the image of your last streamed category."
      [("$categoryImageUrl[$target]",
        "Gets the image URL of the last streamed category for the target channel."),
       ("$categoryImageUrl[$user]",
        "Gets the image URL of the last streamed category for the associated user."),
       ("$categoryImageUrl[ebiggz]",
        "Gets the image URL of the last streamed category for a specific channel."),
       ("$categoryImageUrl[ebiggz, 285x380]",
        "Gets the image URL with a different size (aspect ratio 4:3). Default is 285x380.")],
    entry "$channelGoalCurrentAmount"
      "The current amount of the current channel goal."
      [("$channelGoalCurrentAmount",
        "Gets the current amount for the most recently created active channel goal, or the channel goal that triggered the event."),
       ("$channelGoalCurrentAmount[type]",
        "Gets the current amount for the active channel goal of this specific type. Types are follow, sub, subpoint, newsub, or newsubpoint.")],
    entry "$channelGoalDescription"
      "The description of the current channel goal."
      [("$channelGoalDescription",
        "Gets the description for the most recently created active channel goal, or the channel goal that triggered the event."),
       ("$channelGoalDescription[type]",
        "Gets the description for the active channel goal of this specific type. Types are follow, sub, subpoint, newsub, or newsubpoint.")],
    entry "$channelGoalTargetAmount"
      "The target amount of the current channel goal."
      [("$channelGoalTargetAmount",
        "Gets the target amount for the most recently created active channel goal, or the channel goal that triggered the event."),
       ("$channelGoalTargetAmount[type]",
        "Gets the target amount for the active channel goal of this specific type. Types are follow, sub, subpoint, newsub, or newsubpoint.")],
    entry "$charityCampaignGoal"
      "The goal amount for the current charity campaign" [],
    entry "$charityCampaignTotal"
      "The total amount raised so far during the current charity campaign" [],
    entry "$currentViewerCount"
      "Get the number of people viewing your stream." [],
    flexible <| entry "$followCount"
      "The number of follows you currently have."
      [("$followCount[$target]",
        "When in a command, gets the follow count for the target user."),
       ("$followCount[$user]",
        "Gets the follow count for associated user (Ie who triggered command, pressed button, etc)."),
       ("$followCount[ChannelOne]",
        "Gets the follow count for a specific channel.")],
    entry "$isAdBreakRunning"
      "Whether or not an ad break is currently running" [],
    entry "$rewardCost"
      "The channel point cost of the reward"
      [("$rewardCost[rewardName]",
        "The channel point cost of the given reward. Name must be exact!")],
    entry "$rewardDescription"
      "The description of the reward"
      [("$rewardDescription[rewardName]",
        "The description of the given reward. Name must be exact!")],
    entry "$rewardImageUrl"
      "The image url of the award"
      [("$rewardDescription[rewardName]",
        "The description of the given reward. Name must be exact!")],
    entry "$secondsUntilNextAdBreak"
      "The number of seconds until the next schduled ad break" [],
    flexible <| entry "$streamTitle"
      "Gets the current stream title for your channel"
      [("$streamTitle[$target]",
        "When in a command, gets the stream title for the target channel."),
       ("$streamTitle[$user]",
        "Gets the stream title for associated user (Ie who triggered command, pressed button, etc)."),
       ("$streamTitle[ebiggz]",
        "Gets the stream title for a specific channel.")],
    entry "$subCount"
      "The number of subs you currently have." [],
    entry "$subNames"
      "Returns an array of subscriptions you currently have. Items contain 'username', 'tier' and 'isGift' properties"
      [("$subNames",
        "Returns: [\x7busername: \"firebottle\", displayname: \"FireBottle\", tier: 2000, isGift:false\x7d, \x7busername: \"ebiggz\", displayname: \"EBiggz\", tier: 1000, isGift:true\x7d] To be used with array or custom variables")],
    entry "$subPoints"
      "The number of sub points you currently have." [],
    entry "$twitchChannelUrl"
      "Returns the Twitch URL for the given channel name."
      [("$twitchChannelUrl[channelName]",
        "Returns full Twitch URL for the specified channel")],
    entry "$uptime"
      "The current stream uptime" []]

/-- Variables of the category `Bits`. -/
def bitsVariables : List Definition := inCategory "Bits" [
    entry "$bitsCheered"
      "Returns the number of bits the specified user has cheered in the streamer's channel."
      [("$bitsCheered[username]",
        "Returns the all-time bits cheered by \"username\"."),
       ("$bitsCheered[username, month]",
        "Returns the bits cheered by \"username\" during the current month."),
       ("$bitsCheered[username, month, 2021-08-01]",
        "Returns the bits cheered by \"username\" during August 2021.")],
    entry "$bitsLeaderboard"
      "Returns an array of the bits leaderboard of the streamer's channel."
      [("$bitsLeaderboard[count]",
        "Returns an array of the bits leaderboard up to the specified count. Each object contains username and amount."),
       ("$bitsLeaderboard[count, period]",
        "Returns leaderboard for specified period (day, week, month, year, or all)"),
       ("$bitsLeaderboard[count, period, startDate]",
        "Returns leaderboard for specified period starting from given date")],
    entry "$cheermoteAmounts"
      "Outputs the amounts cheered for each instance of a chat message's cheermotes from the associated command or event."
      [("$cheermoteAmounts[1]",
        "Get the amount cheered using a specific instance of a cheermote.")],
    entry "$cheermoteAnimatedUrls"
      "Outputs the animated URLs of a chat message's cheermotes from the associated command or event."
      [("$cheermoteAnimatedUrls[1]",
        "Get the animated URL of a specific instance of a cheermote.")],
    entry "$cheermoteColors"
      "Outputs the text colors (in #RRGGBB format) of a chat message's cheermotes from the associated command or event."
      [("$cheermoteColors[1]",
        "Gets the text color of a specific instance of a cheermote.")],
    entry "$cheermoteNames"
      "Outputs the names of a chat message's cheermotes from the associated command or event."
      [("$cheermoteNames[1]",
        "Gets the name of a specific instance of a cheermote.")],
    entry "$cheermoteUrls"
      "Outputs the URLs of a chat message's cheermotes from the associated command or event."
      [("$cheermoteUrls[1]",
        "Gets the URL of a specific instance of a cheermote.")],
    deprecated "Use $bitsLeaderboard instead" "$bitsLeaderboard" <| entry "$rawBitsLeaderboard"
      "Returns a raw array of the all-time bits leaderboard of the streamer's channel, up to the specified count. Each item in the array has a username and amount property"
      [("$rawBitsLeaderboard[count, period]",
        "Returns a raw array of the bits leaderboard of the streamer's channel during the current specified period, up to the specified count. Each object in the array has a username and amount. Period can be 'day', 'week', 'month', 'year', or 'all'."),
       ("$rawBitsLeaderboard[count, period, startDate]",
        "Returns a raw array of the bits leaderboard of the streamer's channel during the specified period that occurred on the specified date, up to the specified count. Each object in the array has a username and amount. Period can be 'day', 'week', 'month', 'year', or 'all'.")],
    deprecated "Use $topBitsCheerers instead" "$topBitsCheerers" <| entry "$rawTopBitsCheerers"
      "Returns a raw array containing the username of the top user who has cheered the most bits in the streamer's channel all-time."
      [("$rawTopBitsCheerers[count]",
        "Returns a raw array of the usernames up to the specified count, of the users who have cheered the most bits in the streamer's channel all-time."),
       ("$rawTopBitsCheerers[count, period]",
        "Returns a raw array of the usernames up to the specified count, of the users who have cheered the most bits in the streamer's channel during the current specified period. Period can be 'day', 'week', 'month', 'year', or 'all'."),
       ("$rawTopBitsCheerers[count, period, startDate]",
        "Returns a raw array of the usernames up to the specified count, of the users who have cheered the most bits in the streamer's channel during the specified period that occurred on the specified date. Period can be 'day', 'week', 'month', 'year', or 'all'.")],
    entry "$topBitsCheerers"
      "Returns an array containing the username of the top user who has cheered the most bits in the streamer's channel all-time."
      [("$topBitsCheerers[count]",
        "Returns an array of the usernames up to the specified count, of the users who have cheered the most bits in the streamer's channel all-time."),
       ("$topBitsCheerers[count, period]",
        "Returns an array of the usernames up to the specified count, of the users who have cheered the most bits in the streamer's channel during the current specified period. Period can be 'day', 'week', 'month', 'year', or 'all'."),
       ("$topBitsCheerers[count, period, startDate]",
        "Returns an array of the usernames up to the specified count, of the users who have cheered the most bits in the streamer's channel during the specified period that occurred on the specified date. Period can be 'day', 'week', 'month', 'year', or 'all'.")]]

end Sigil.Builtin
