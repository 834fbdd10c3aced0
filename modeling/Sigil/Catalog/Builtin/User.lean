import Sigil.Catalog.Builtin.Entry

/-! # Users

    Built-in variables of the categories `User Based`, `Rank`, `Extra Life`. -/

namespace Sigil.Builtin

/-- Variables of the category `User Based`. -/
def userBasedVariables : List Definition := inCategory "User Based" [
    flexible <| entry "$accountCreationDate"
      "The creation date of your Twitch account."
      [("$accountCreationDate[$target]",
        "When in a command, gets the creation date for the target user's Twitch account."),
       ("$accountCreationDate[$user]",
        "Gets the creation date for associated user's Twitch account (Ie who triggered command, pressed button, etc)."),
       ("$accountCreationDate[ChannelOne]",
        "Gets the creation date for a specific user's Twitch account/channel.")],
    entry "$bot"
      "Outputs the Bot account username." [],
    entry "$customRoleUserCount"
      "Get the number of people in a custom role."
      [("$customRoleUserCount[role]",
        "Returns the number of users in the specified custom role")],
    entry "$customRoleUsers"
      "Returns an array of all the users in the specified custom role."
      [("$customRoleUsers[role]",
        "Returns array of users in the specified custom role")],
    flexible <| entry "$followAge"
      "The time a given viewer has been following the channel, in days by default."
      [("$followAge[$user]",
        "Gets how long the associated user (i.e. who triggered command, pressed button, etc) has been following the channel (in days)."),
       ("$followAge[$target]",
        "Gets how long the target user has been following the channel (in days)."),
       ("$followAge[username, unitOfTime]",
        "Gets how long the specified username has been following the channel in a specific unit of time (in years, months, days, hours, or minutes).")],
    entry "$hasRole"
      "Returns true if the user has the specified role. Only valid within $if[]"
      [("$hasRole[$user, mod]",
        "Returns true if the user has the moderator role")],
    entry "$hasRoles"
      "Returns true if the user has the specified roles. Only valid within $if"
      [("$hasRoles[$user, any, mod, vip]",
        "returns true if $user is a mod OR VIP"),
       ("$hasRoles[$user, all, mod, vip]",
        "Returns true if $user is a mod AND a VIP")],
    flexible <| entry "$pronouns"
      "Returns the pronouns of the given user. It uses https://pronouns.alejo.io/ to get the pronouns."
      [("$pronouns[username, 0, they/them]",
        "Returns 'she/her' if available, otherwise uses they/them."),
       ("$pronouns[username, 1, they]",
        "Returns 'she' pronoun in she/her set if available, otherwise uses they."),
       ("$pronouns[username, 2, them]",
        "Returns 'her' pronoun in she/her set if available, otherwise uses them.")],
    flexible <| entry "$randomActiveViewer"
      "Get a random active chatter."
      [("$randomActiveViewer[roleName]",
        "Filter to an active viewer in a specific role."),
       ("$randomActiveViewer[null, ignoreUser]",
        "Get a random active user that is NOT the ignore user")],
    entry "$randomCustomRoleUser"
      "Returns a random user that has the specified custom role."
      [("$randomCustomRoleUser[role]",
        "Returns a random user from the specified custom role")],
    entry "$randomViewer"
      "Get a random viewer in chat." [],
    deprecated "Use $customRoleUsers instead" "$customRoleUsers" <| entry "$rawCustomRoleUsers"
      "Returns an array of all the users in the specified custom role." [],
    entry "$rawRandomCustomRoleUser"
      "Returns a random user that has the specified custom role as an object containing id, username, and displayName fields."
      [("$rawRandomCustomRoleUser[Subscriber]",
        "Returns a random user object from the Subscriber role containing their id, username, and displayName")],
    deprecated "Use $topViewTime instead" "$topViewTime" <| entry "$rawTopViewTime"
      "Returns a raw array containing users with the most view time(in hours). Items contain 'username', 'place' and 'minutes' properties"
      [("$rawTopViewTime[10]",
        "Returns array of top 10 users with their view time in minutes"),
       ("$rawTopViewTime[5]",
        "Returns array of top 5 users with their view time in minutes")],
    deprecated "Use $userRoles instead" "$userRoles" <| entry "$rawUserRoles"
      "Returns all roles of the user as a raw array"
      [("$rawUserRoles",
        "Returns all roles for the user"),
       ("$rawUserRoles[$user]",
        "Returns all roles of the specified user"),
       ("$rawUserRoles[$user, all]",
        "Returns all roles of the specified user as nested arrays in the order of: twitch, team, firebot and custom roles"),
       ("$rawUserRoles[$user, firebot]",
        "Returns all firebot roles of the specified user"),
       ("$rawUserRoles[$user, custom]",
        "Returns all custom roles of the specified user"),
       ("$rawUserRoles[$user, twitch]",
        "Returns all Twitch roles of the specified user"),
       ("$rawUserRoles[$user, team]",
        "Returns all Twitch team roles of the specified user")],
    deprecated "Use $usernameArray instead" "$usernameArray" <| entry "$rawUsernameArray"
      "Returns a raw array of all usernames saved in the user db" [],
    entry "$streamer"
      "Outputs the Streamer account username." [],
    entry "$topViewTime"
      "Comma separated list of users with the most view time (in hours). Defaults to top 10, you can provide a custom number as a second argument." [],
    entry "$user"
      "The associated user (if there is one) for the given trigger" [],
    alsoCalled ["$userProfileImageUrl"] <| flexible <| entry "$userAvatarUrl"
      "Gets the url for the avatar of the associated user (Ie who triggered command, pressed button, etc)."
      [("$userAvatarUrl[$target]",
        "When in a command, gets the the url for the avatar of the target user."),
       ("$userAvatarUrl[ebiggz]",
        "Gets the url for the avatar of a specific user.")],
    entry "$userBadgeUrls"
      "Outputs the URLs of a chatter's selected badge images from the associated command or event."
      [("$userBadgeUrls[1]",
        "Get the URL of a chatter's selected badge image.")],
    alsoCalled ["$userAbout", "$userDescription"] <| entry "$userBio"
      "Gets the bio/description of the associated user (ie who triggered command, pressed button, etc)."
      [("$userBio[$target]",
        "When in a command, gets the the bio/description of the target user."),
       ("$userBio[ebiggz]",
        "Gets the bio/description of a specific user.")],
    entry "$userDisplayName"
      "Gets the formatted display name for the given username. Searches local viewer DB first, then Twitch API."
      [("$userDisplayName[username]",
        "Returns the formatted display name for the specified username")],
    entry "$userExists"
      "Outputs 'true' if a user exists in Firebot's database, 'false' if not"
      [("$userExists[username]",
        "Returns true if the specified username exists in the database, false if not")],
    entry "$userId"
      "Gets the user ID for the given username. Searches local viewer DB first, then Twitch API."
      [("$userId[username]",
        "Returns the Twitch user ID for the specified username")],
    entry "$userIsBanned"
      "Returns true if the specified user is currently banned (not just timed out), otherwise returns false."
      [("$userIsBanned[username]",
        "Returns true if the specified user is banned, false otherwise")],
    entry "$userIsTimedOut"
      "Returns true if the specified user is currently timed out, otherwise returns false."
      [("$userIsTimedOut[username]",
        "Returns true if the specified user is timed out, false otherwise")],
    entry "$userMetadata"
      "Get the metadata associated with the user."
      [("$userMetadata[username, metadataKey, defaultValue]",
        "Provide a default value if one doesn't exist for the user."),
       ("$userMetadata[username, metadataKey, null, propertyPath]",
        "Provide a property path (using dot notation) or array index as a second argument.")],
    deprecated "Use $user or $username instead" "$user or $username" <| entry "$useridname"
      "The associated underlying user identifying name for the given trigger" [],
    entry "$username"
      "The associated user (if there is one) for the given trigger" [],
    entry "$usernameArray"
      "Returns an array of all usernames saved in the user db" [],
    flexible <| entry "$viewTime"
      "Displays the view time (in hours) of a given viewer (leave blank to use current viewer)"
      [("$viewTime",
        "Returns view time for current viewer"),
       ("$viewTime[username]",
        "Returns view time for specified viewer")]]

/-- Variables of the category `Rank`. -/
def rankVariables : List Definition := inCategory "Rank" [
    entry "$rankLadderMode"
      "Returns the mode of the specified rank ladder (e.g. 'auto' or 'manual')"
      [("$rankLadderMode[viewerLevels]",
        "Returns the mode (\"auto\" or \"manual\") for the viewerLevels rank ladder")],
    entry "$rankValue"
      "Returns the threshold value of the specified rank in the rank ladder. Only applicable to auto rank ladders."
      [("$rankValue[viewerLevels, Expert]",
        "Returns the threshold value required to reach the Expert rank in the viewerLevels ladder")],
    entry "$rankValueDescription"
      "Returns the threshold value description of the specified rank in the rank ladder, i.e. '50 hours'. Only applicable to auto rank ladders."
      [("$rankValueDescription[viewerLevels, Expert]",
        "Returns the threshold description (e.g. \"50 hours\") for the Expert rank in the viewerLevels ladder")],
    entry "$viewerHasRank"
      "Whether the viewer has the specified rank in the specified rank ladder"
      [("$viewerHasRank[username, rankLadderName, rankName]",
        "Returns true if the specified user has the given rank in the specified ladder")],
    entry "$viewerNamesInRank"
      "Returns a comma separated list of viewer names in the specified rank"
      [("$viewerNamesInRank[rankLadderName, rankName]",
        "Returns a comma-separated list of viewers who have the specified rank in the given ladder")],
    entry "$viewerNextRank"
      "Returns the next rank in specified rank ladder for the user"
      [("$viewerNextRank[username, rankLadderName]",
        "Returns the name of the next rank the specified user can achieve in the given ladder")],
    entry "$viewerRank"
      "Returns the viewers current rank name for the specified rank ladder"
      [("$viewerRank[username, rankLadderName]",
        "Returns the current rank name for the specified user in the given ladder")],
    entry "$viewersInRankArray"
      "Returns an array of viewer objects in the specified rank. Viewer object properties: _id, username, displayName"
      [("$viewersInRankArray[rankLadderName, rankName]",
        "Returns array of viewer objects for the specified rank")]]

/-- Variables of the category `Extra Life`. -/
def extraLifeVariables : List Definition := inCategory "Extra Life" [
    entry "$extraLifeDonations"
      "Returns information on extra life donations."
      [("$extraLifeDonations[amount]",
        "Returns top donation for currently signed in extra life account."),
       ("$extraLifeDonations[amount, 1, participantID]",
        "Returns top donation for specified participantID."),
       ("$extraLifeDonations[amount, 3, participantID]",
        "Returns top 3 donations for participantID."),
       ("$extraLifeDonations[createdDateUTC, 5, participantID]",
        "Returns 5 most recent donations for participantID."),
       ("$extraLifeDonations[createdDateUTC, 5, participantID, true]",
        "Returns 5 most recent donations for participantID in JSON format."),
       ("$extraLifeDonations[amount, 3, null, true]",
        "Returns top 3 donations for current signed in extra life account in JSON format.")],
    entry "$extraLifeIncentives"
      "Returns information on extra life incentives."
      [("$extraLifeIncentives[]",
        "Returns one incentive for the logged in extra life account."),
       ("$extraLifeIncentives[Play one handed]",
        "Returns one incentive with the description 'Play one handed' for the logged in extra life account."),
       ("$extraLifeIncentives[Play one handed, 1, participantID]",
        "Returns one incentive with the description 'Play one handed' for the given participant id."),
       ("$extraLifeIncentives[null, 3, participantID]",
        "Returns three incentives for given participant ID."),
       ("$extraLifeIncentives[null, 10, null, true]",
        "Returns ten incentives for current logged in extra life account in JSON format.")],
    entry "$extraLifeInfo"
      "Returns specified data from your extra life profile."
      [("$extraLifeInfo[fundraisingGoal]",
        "Returns the fundraising goal for the current logged in extra life account."),
       ("$extraLifeInfo[fundraisingGoal, participantID]",
        "Returns the fundraising goal for the given participantID."),
       ("$extraLifeInfo[eventName, participantID]",
        "Returns the fundraising event name, e.g. Extra Life 2024."),
       ("$extraLifeInfo[donateLink, participantID]",
        "Returns the donation link."),
       ("$extraLifeInfo[profileLink, participantID]",
        "Returns the profile link."),
       ("$extraLifeInfo[sumDonations, participantID]",
        "Returns the sum of current donations."),
       ("$extraLifeInfo[sumPledges, participantID]",
        "Returns the sum of current pledges."),
       ("$extraLifeInfo[numIncentives, participantID]",
        "Returns the number of incentives."),
       ("$extraLifeInfo[numMilestones, participantID]",
        "Returns the number of milestones."),
       ("$extraLifeInfo[numDonations, participantID]",
        "Returns the number of donations."),
       ("$extraLifeInfo[avatarImageURL, participantID]",
        "Returns the url for the extra life avatar image."),
       ("$extraLifeInfo[null, null, true]",
        "Get all profile data for the current logged in extra life account in JSON format.")],
    entry "$extraLifeMilestones"
      "Returns information on extra life milestones."
      [("$extraLifeMilestones[]",
        "Returns the next milestone for the logged in extra life account."),
       ("$extraLifeMilestones[null, 1, participantID]",
        "Returns the next milestone for the given participant id."),
       ("$extraLifeMilestones[75, 1, participantID]",
        "Returns a milestone with the goal of $75 for the given participant id."),
       ("$extraLifeMilestones[75]",
        "Returns a milestone with the goal of $75 for the logged in extra life account."),
       ("$extraLifeMilestones[null, 3, participantID, true]",
        "Returns three milestones in JSON format.")]]

end Sigil.Builtin
