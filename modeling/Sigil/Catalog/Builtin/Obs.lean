import Sigil.Catalog.Builtin.Entry

/-! # Broadcasting software

    Built-in variables of the category `OBS`. -/

namespace Sigil.Builtin

/-- Variables of the category `OBS`. -/
def obsVariables : List Definition := inCategory "OBS" [
    entry "$obsColorValue"
      "Returns an OBS color value based on either a hex color code (e.g. #0066FF) or an HTML color name."
      [("$obsColorValue[#FF0000]",
        "Returns OBS color value for red using hex code"),
       ("$obsColorValue[blue]",
        "Returns OBS color value for blue using color name")],
    entry "$obsInputActive"
      "Returns true if the OBS input is active or false if it is not." [],
    entry "$obsInputAudioBalance"
      "Returns the audio balance value of the OBS input." [],
    entry "$obsInputAudioSyncOffset"
      "Returns the audio sync offset (in milliseconds) of the OBS input." [],
    entry "$obsInputAudioTracks"
      "Returns the raw OBS audio tracks object of the OBS input." [],
    entry "$obsInputKind"
      "Returns the OBS internal name of the kind of OBS input." [],
    entry "$obsInputMonitorType"
      "Returns the audio monitor type of the OBS input. Values are None, Monitor Only, or Monitor and Output." [],
    entry "$obsInputMuted"
      "Returns true if the OBS input is muted or false if it is not." [],
    entry "$obsInputName"
      "Returns the name of the OBS input." [],
    entry "$obsInputSettings"
      "Returns the raw OBS settings object of the OBS input." [],
    entry "$obsInputShowing"
      "Returns true if the OBS input is currently showing or false if it is not." [],
    entry "$obsInputUuid"
      "Returns the UUID of the OBS input." [],
    entry "$obsInputVolumeDb"
      "Returns the volume level in dB of the OBS input." [],
    entry "$obsInputVolumeMultiplier"
      "Returns the volume level multiplier of the OBS input." [],
    entry "$obsIsConnected"
      "Returns 'true' if OBS is currently connected or 'false' if it is not." [],
    entry "$obsIsRecording"
      "Returns 'true' if OBS is currently recording or 'false' if it is not." [],
    entry "$obsIsStreaming"
      "Returns 'true' if OBS is currently streaming or 'false' if it is not." [],
    entry "$obsOldInputName"
      "Returns the previous name of the OBS input." [],
    entry "$obsSceneCollectionName"
      "The name of the OBS scene collection that triggered the event, or the name of the current OBS scene collection if there is no event. If OBS isn't running, it returns 'Unknown'." [],
    entry "$obsSceneName"
      "The name of the OBS scene that triggered the event, or the current OBS Scene if there is no event. If OBS isn't running, it returns 'Unknown'." []]

end Sigil.Builtin
