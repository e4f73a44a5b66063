import Chip8.Entries
import Chip8.Text.UpperCase

/-!
# Keyboards

A keyboard is a table of the names of its keys and the numbers that the window
system gives them. Several names may belong to one key.

- `Keyboard.ofAnyCase?`: the key of a name in any letter case.
- `Keyboard.resolve`: a mapping of names as a mapping of keys.
- `Keyboard.standard`: the keyboard of the window.
-/

namespace Chip8

/-- The keys' names with their numbers, ascending by name. -/
abbrev Keyboard := List (String × Int)

/-- A name that no key has. -/
structure UnknownKey where
  name : String
  deriving DecidableEq, Repr

/-- What is said about it. -/
def UnknownKey.message (e : UnknownKey) : String :=
  "Unknown key name '" ++ e.name ++ "' in keymap"

namespace Keyboard

/-- The number of the key with exactly this name. -/
def ofName? (k : Keyboard) (name : String) : Option Int :=
  (k.find? (·.1 = name)).map (·.2)

/-- The number of the key whose name differs at most in letter case; of several, the last. -/
def ofAnyCase? (k : Keyboard) (name : String) : Option Int :=
  let key := UpperCase.ofString name
  (k.reverse.find? (UpperCase.ofString ·.1 = key)).map (·.2)

/-- Goes over the entries of a mapping of names and binds their keys; entries for the same key are
one, with the later value in the earlier place. -/
def resolveOnto {ν : Type} (k : Keyboard) (bound : List (Int × ν)) :
    List (String × ν) → Except UnknownKey (List (Int × ν))
  | [] => .ok bound
  | (name, v) :: rest =>
    match k.ofAnyCase? name with
    | some key => resolveOnto k (Entries.put (· = ·) key v bound) rest
    | none => .error ⟨name⟩

/-- A mapping of names as a mapping of keys, or the first name that no key has. -/
def resolve {ν : Type} (k : Keyboard) (names : List (String × ν)) :
    Except UnknownKey (List (Int × ν)) :=
  k.resolveOnto [] names

/-- The key that closes the window. -/
def escape : Int := 0x1000000

/-- The keyboard of the window. -/
def standard : Keyboard :=
  [ ("0", 0x30), ("1", 0x31), ("2", 0x32), ("3", 0x33), ("4", 0x34), ("5", 0x35), ("6", 0x36),
    ("7", 0x37), ("8", 0x38), ("9", 0x39), ("A", 0x41), ("AE", 0xC6), ("Aacute", 0xC1),
    ("Acircumflex", 0xC2), ("AddFavorite", 0x10000C0), ("Adiaeresis", 0xC4), ("Agrave", 0xC0),
    ("Alt", 0x1000023), ("AltGr", 0x1001103), ("Ampersand", 0x26), ("Apostrophe", 0x27),
    ("ApplicationLeft", 0x10000C7), ("ApplicationRight", 0x10000C8), ("Aring", 0xC5),
    ("AsciiCircum", 0x5E), ("AsciiTilde", 0x7E), ("Asterisk", 0x2A), ("At", 0x40),
    ("Atilde", 0xC3), ("AudioCycleTrack", 0x1000106), ("AudioForward", 0x1000102),
    ("AudioRandomPlay", 0x1000104), ("AudioRepeat", 0x1000103), ("AudioRewind", 0x10000C5),
    ("Away", 0x10000F8), ("B", 0x42), ("Back", 0x1000061), ("BackForward", 0x10000C6),
    ("Backslash", 0x5C), ("Backspace", 0x1000003), ("Backtab", 0x1000002), ("Bar", 0x7C),
    ("BassBoost", 0x1000073), ("BassDown", 0x1000075), ("BassUp", 0x1000074),
    ("Battery", 0x10000FE), ("Blue", 0x1000117), ("Bluetooth", 0x10000FF), ("Book", 0x10000C9),
    ("BraceLeft", 0x7B), ("BraceRight", 0x7D), ("BracketLeft", 0x5B), ("BracketRight", 0x5D),
    ("BrightnessAdjust", 0x10000C2), ("C", 0x43), ("CD", 0x10000CA), ("Calculator", 0x10000CB),
    ("Calendar", 0x10000E4), ("Call", 0x1100004), ("Camera", 0x1100020),
    ("CameraFocus", 0x1100021), ("Cancel", 0x1020001), ("CapsLock", 0x1000024),
    ("Ccedilla", 0xC7), ("ChannelDown", 0x1000119), ("ChannelUp", 0x1000118),
    ("Clear", 0x100000B), ("ClearGrab", 0x10000CD), ("Close", 0x10000CE),
    ("Codeinput", 0x1001137), ("Colon", 0x3A), ("Comma", 0x2C), ("Community", 0x10000C4),
    ("Context1", 0x1100000), ("Context2", 0x1100001), ("Context3", 0x1100002),
    ("Context4", 0x1100003), ("ContrastAdjust", 0x100010D), ("Control", 0x1000021),
    ("Copy", 0x10000CF), ("Cut", 0x10000D0), ("D", 0x44), ("DOS", 0x10000D2),
    ("Dead_A", 0x1001281), ("Dead_Abovecomma", 0x1001264), ("Dead_Abovedot", 0x1001256),
    ("Dead_Abovereversedcomma", 0x1001265), ("Dead_Abovering", 0x1001258),
    ("Dead_Aboveverticalline", 0x1001291), ("Dead_Acute", 0x1001251),
    ("Dead_Belowbreve", 0x100126B), ("Dead_Belowcircumflex", 0x1001269),
    ("Dead_Belowcomma", 0x100126E), ("Dead_Belowdiaeresis", 0x100126C),
    ("Dead_Belowdot", 0x1001260), ("Dead_Belowmacron", 0x1001268), ("Dead_Belowring", 0x1001267),
    ("Dead_Belowtilde", 0x100126A), ("Dead_Belowverticalline", 0x1001292),
    ("Dead_Breve", 0x1001255), ("Dead_Capital_Schwa", 0x100128B), ("Dead_Caron", 0x100125A),
    ("Dead_Cedilla", 0x100125B), ("Dead_Circumflex", 0x1001252), ("Dead_Currency", 0x100126F),
    ("Dead_Diaeresis", 0x1001257), ("Dead_Doubleacute", 0x1001259),
    ("Dead_Doublegrave", 0x1001266), ("Dead_E", 0x1001283), ("Dead_Grave", 0x1001250),
    ("Dead_Greek", 0x100128C), ("Dead_Hook", 0x1001261), ("Dead_Horn", 0x1001262),
    ("Dead_I", 0x1001285), ("Dead_Invertedbreve", 0x100126D), ("Dead_Iota", 0x100125D),
    ("Dead_Longsolidusoverlay", 0x1001293), ("Dead_Lowline", 0x1001290),
    ("Dead_Macron", 0x1001254), ("Dead_O", 0x1001287), ("Dead_Ogonek", 0x100125C),
    ("Dead_Semivoiced_Sound", 0x100125F), ("Dead_Small_Schwa", 0x100128A),
    ("Dead_Stroke", 0x1001263), ("Dead_Tilde", 0x1001253), ("Dead_U", 0x1001289),
    ("Dead_Voiced_Sound", 0x100125E), ("Dead_a", 0x1001280), ("Dead_e", 0x1001282),
    ("Dead_i", 0x1001284), ("Dead_o", 0x1001286), ("Dead_u", 0x1001288), ("Delete", 0x1000007),
    ("Direction_L", 0x1000059), ("Direction_R", 0x1000060), ("Display", 0x10000D1),
    ("Documents", 0x10000D3), ("Dollar", 0x24), ("Down", 0x1000015), ("E", 0x45), ("ETH", 0xD0),
    ("Eacute", 0xC9), ("Ecircumflex", 0xCA), ("Ediaeresis", 0xCB), ("Egrave", 0xC8),
    ("Eisu_Shift", 0x100112F), ("Eisu_toggle", 0x1001130), ("Eject", 0x10000B9),
    ("End", 0x1000011), ("Enter", 0x1000005), ("Equal", 0x3D), ("Escape", 0x1000000),
    ("Excel", 0x10000D4), ("Exclam", 0x21), ("Execute", 0x1020003), ("Exit", 0x102000A),
    ("Explorer", 0x10000D5), ("F", 0x46), ("F1", 0x1000030), ("F10", 0x1000039),
    ("F11", 0x100003A), ("F12", 0x100003B), ("F13", 0x100003C), ("F14", 0x100003D),
    ("F15", 0x100003E), ("F16", 0x100003F), ("F17", 0x1000040), ("F18", 0x1000041),
    ("F19", 0x1000042), ("F2", 0x1000031), ("F20", 0x1000043), ("F21", 0x1000044),
    ("F22", 0x1000045), ("F23", 0x1000046), ("F24", 0x1000047), ("F25", 0x1000048),
    ("F26", 0x1000049), ("F27", 0x100004A), ("F28", 0x100004B), ("F29", 0x100004C),
    ("F3", 0x1000032), ("F30", 0x100004D), ("F31", 0x100004E), ("F32", 0x100004F),
    ("F33", 0x1000050), ("F34", 0x1000051), ("F35", 0x1000052), ("F4", 0x1000033),
    ("F5", 0x1000034), ("F6", 0x1000035), ("F7", 0x1000036), ("F8", 0x1000037),
    ("F9", 0x1000038), ("Favorites", 0x1000091), ("Finance", 0x10000C3), ("Find", 0x1000122),
    ("Flip", 0x1100006), ("Forward", 0x1000062), ("G", 0x47), ("Game", 0x10000D6),
    ("Go", 0x10000D7), ("Greater", 0x3E), ("Green", 0x1000115), ("Guide", 0x100011A),
    ("H", 0x48), ("Hangul", 0x1001131), ("Hangul_Banja", 0x1001139), ("Hangul_End", 0x1001133),
    ("Hangul_Hanja", 0x1001134), ("Hangul_Jamo", 0x1001135), ("Hangul_Jeonja", 0x1001138),
    ("Hangul_PostHanja", 0x100113B), ("Hangul_PreHanja", 0x100113A),
    ("Hangul_Romaja", 0x1001136), ("Hangul_Special", 0x100113F), ("Hangul_Start", 0x1001132),
    ("Hangup", 0x1100005), ("Hankaku", 0x1001129), ("Help", 0x1000058), ("Henkan", 0x1001123),
    ("Hibernate", 0x1000108), ("Hiragana", 0x1001125), ("Hiragana_Katakana", 0x1001127),
    ("History", 0x10000BF), ("Home", 0x1000010), ("HomePage", 0x1000090),
    ("HotLinks", 0x10000C1), ("Hyper_L", 0x1000056), ("Hyper_R", 0x1000057), ("I", 0x49),
    ("Iacute", 0xCD), ("Icircumflex", 0xCE), ("Idiaeresis", 0xCF), ("Igrave", 0xCC),
    ("Info", 0x100011B), ("Insert", 0x1000006), ("J", 0x4A), ("K", 0x4B),
    ("Kana_Lock", 0x100112D), ("Kana_Shift", 0x100112E), ("Kanji", 0x1001121),
    ("Katakana", 0x1001126), ("Keyboard", 0x100011F), ("KeyboardBrightnessDown", 0x10000B6),
    ("KeyboardBrightnessUp", 0x10000B5), ("KeyboardLightOnOff", 0x10000B4), ("L", 0x4C),
    ("LastNumberRedial", 0x1100009), ("Launch0", 0x10000A2), ("Launch1", 0x10000A3),
    ("Launch2", 0x10000A4), ("Launch3", 0x10000A5), ("Launch4", 0x10000A6),
    ("Launch5", 0x10000A7), ("Launch6", 0x10000A8), ("Launch7", 0x10000A9),
    ("Launch8", 0x10000AA), ("Launch9", 0x10000AB), ("LaunchA", 0x10000AC),
    ("LaunchB", 0x10000AD), ("LaunchC", 0x10000AE), ("LaunchD", 0x10000AF),
    ("LaunchE", 0x10000B0), ("LaunchF", 0x10000B1), ("LaunchG", 0x100010E),
    ("LaunchH", 0x100010F), ("LaunchMail", 0x10000A0), ("LaunchMedia", 0x10000A1),
    ("Left", 0x1000012), ("Less", 0x3C), ("LightBulb", 0x10000BD), ("LogOff", 0x10000D9),
    ("M", 0x4D), ("MailForward", 0x10000FB), ("Market", 0x10000DA), ("Massyo", 0x100112C),
    ("MediaLast", 0x100FFFF), ("MediaNext", 0x1000083), ("MediaPause", 0x1000085),
    ("MediaPlay", 0x1000080), ("MediaPrevious", 0x1000082), ("MediaRecord", 0x1000084),
    ("MediaStop", 0x1000081), ("MediaTogglePlayPause", 0x1000086), ("Meeting", 0x10000DB),
    ("Memo", 0x10000BC), ("Menu", 0x1000055), ("MenuKB", 0x10000DC), ("MenuPB", 0x10000DD),
    ("Messenger", 0x10000F9), ("Meta", 0x1000022), ("MicMute", 0x1000113),
    ("MicVolumeDown", 0x100011E), ("MicVolumeUp", 0x100011D), ("Minus", 0x2D),
    ("Mode_switch", 0x100117E), ("MonBrightnessDown", 0x10000B3), ("MonBrightnessUp", 0x10000B2),
    ("Muhenkan", 0x1001122), ("Multi_key", 0x1001120), ("MultipleCandidate", 0x100113D),
    ("Music", 0x10000FD), ("MySites", 0x10000DE), ("N", 0x4E), ("New", 0x1000120),
    ("News", 0x10000DF), ("No", 0x1010002), ("Ntilde", 0xD1), ("NumLock", 0x1000025),
    ("NumberSign", 0x23), ("O", 0x4F), ("Oacute", 0xD3), ("Ocircumflex", 0xD4),
    ("Odiaeresis", 0xD6), ("OfficeHome", 0x10000E0), ("Ograve", 0xD2), ("Ooblique", 0xD8),
    ("Open", 0x1000121), ("OpenUrl", 0x1000094), ("Option", 0x10000E1), ("Otilde", 0xD5),
    ("P", 0x50), ("PageDown", 0x1000017), ("PageUp", 0x1000016), ("ParenLeft", 0x28),
    ("ParenRight", 0x29), ("Paste", 0x10000E2), ("Pause", 0x1000008), ("Percent", 0x25),
    ("Period", 0x2E), ("Phone", 0x10000E3), ("Pictures", 0x10000FC), ("Play", 0x1020005),
    ("Plus", 0x2B), ("PowerDown", 0x100010B), ("PowerOff", 0x10000B7),
    ("PreviousCandidate", 0x100113E), ("Print", 0x1000009), ("Printer", 0x1020002), ("Q", 0x51),
    ("Question", 0x3F), ("QuoteDbl", 0x22), ("QuoteLeft", 0x60), ("R", 0x52), ("Red", 0x1000114),
    ("Redo", 0x1000124), ("Refresh", 0x1000064), ("Reload", 0x10000E6), ("Reply", 0x10000E5),
    ("Return", 0x1000004), ("Right", 0x1000014), ("Romaji", 0x1001124),
    ("RotateWindows", 0x10000E7), ("RotationKB", 0x10000E9), ("RotationPB", 0x10000E8),
    ("S", 0x53), ("Save", 0x10000EA), ("ScreenSaver", 0x10000BA), ("ScrollLock", 0x1000026),
    ("Search", 0x1000092), ("Select", 0x1010000), ("Semicolon", 0x3B), ("Send", 0x10000EB),
    ("Settings", 0x100011C), ("Shift", 0x1000020), ("Shop", 0x10000BE),
    ("SingleCandidate", 0x100113C), ("Slash", 0x2F), ("Sleep", 0x1020004), ("Space", 0x20),
    ("Spell", 0x10000EC), ("SplitScreen", 0x10000ED), ("Standby", 0x1000093),
    ("Stop", 0x1000063), ("Subtitle", 0x1000105), ("Super_L", 0x1000053), ("Super_R", 0x1000054),
    ("Support", 0x10000EE), ("Suspend", 0x100010C), ("SysReq", 0x100000A), ("T", 0x54),
    ("THORN", 0xDE), ("Tab", 0x1000001), ("TaskPane", 0x10000EF), ("Terminal", 0x10000F0),
    ("Time", 0x1000107), ("ToDoList", 0x10000CC), ("ToggleCallHangup", 0x1100007),
    ("Tools", 0x10000F1), ("TopMenu", 0x100010A), ("TouchpadOff", 0x1000112),
    ("TouchpadOn", 0x1000111), ("TouchpadToggle", 0x1000110), ("Touroku", 0x100112B),
    ("Travel", 0x10000F2), ("TrebleDown", 0x1000077), ("TrebleUp", 0x1000076), ("U", 0x55),
    ("UWB", 0x1000101), ("Uacute", 0xDA), ("Ucircumflex", 0xDB), ("Udiaeresis", 0xDC),
    ("Ugrave", 0xD9), ("Underscore", 0x5F), ("Undo", 0x1000123), ("Up", 0x1000013), ("V", 0x56),
    ("Video", 0x10000F3), ("View", 0x1000109), ("VoiceDial", 0x1100008),
    ("VolumeDown", 0x1000070), ("VolumeMute", 0x1000071), ("VolumeUp", 0x1000072), ("W", 0x57),
    ("WLAN", 0x1000100), ("WWW", 0x10000BB), ("WakeUp", 0x10000B8), ("WebCam", 0x10000FA),
    ("Word", 0x10000F4), ("X", 0x58), ("Xfer", 0x10000F5), ("Y", 0x59), ("Yacute", 0xDD),
    ("Yellow", 0x1000116), ("Yes", 0x1010001), ("Z", 0x5A), ("Zenkaku", 0x1001128),
    ("Zenkaku_Hankaku", 0x100112A), ("Zoom", 0x1020006), ("ZoomIn", 0x10000F6),
    ("ZoomOut", 0x10000F7), ("acute", 0xB4), ("brokenbar", 0xA6), ("cedilla", 0xB8),
    ("cent", 0xA2), ("copyright", 0xA9), ("currency", 0xA4), ("degree", 0xB0),
    ("diaeresis", 0xA8), ("division", 0xF7), ("exclamdown", 0xA1), ("guillemotleft", 0xAB),
    ("guillemotright", 0xBB), ("hyphen", 0xAD), ("iTouch", 0x10000D8), ("macron", 0xAF),
    ("masculine", 0xBA), ("multiply", 0xD7), ("nobreakspace", 0xA0), ("notsign", 0xAC),
    ("onehalf", 0xBD), ("onequarter", 0xBC), ("onesuperior", 0xB9), ("ordfeminine", 0xAA),
    ("paragraph", 0xB6), ("periodcentered", 0xB7), ("plusminus", 0xB1), ("questiondown", 0xBF),
    ("registered", 0xAE), ("section", 0xA7), ("ssharp", 0xDF), ("sterling", 0xA3),
    ("threequarters", 0xBE), ("threesuperior", 0xB3), ("twosuperior", 0xB2),
    ("unknown", 0x1FFFFFF), ("ydiaeresis", 0xFF), ("yen", 0xA5) ]

end Keyboard

end Chip8
