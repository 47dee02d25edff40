import Orthography.Character.Run

/-!
# Scripts

The script of every character, as the lengths of successive stretches of one script, the scripts of
the characters that are used in others than their own, and the names under which a pattern may call
a script.
-/

namespace Orthography.Character

/-- The stretches of one script, from the first character to the last. -/
def scriptStretches : List (Nat × String) := readTagged [
  "65Zyyy 26Latn 6Zyyy 26Latn 47Zyyy 1Latn 15Zyyy 1Latn 5Zyyy 23Latn 1Zyyy 31Latn 1Zyyy 449Latn",
  "39Zyyy 5Latn 5Zyyy 2Bopo 20Zyyy 112Zinh 4Grek 1Zyyy 3Grek 2Zzzz 4Grek 1Zyyy 1Grek 4Zzzz 1Grek",
  "1Zyyy 1Grek 1Zyyy 3Grek 1Zzzz 1Grek 1Zzzz 20Grek 1Zzzz 63Grek 14Copt 16Grek 133Cyrl 2Zinh",
  "169Cyrl 1Zzzz 38Armn 2Zzzz 50Armn 2Zzzz 3Armn 1Zzzz 55Hebr 8Zzzz 27Hebr 4Zzzz 6Hebr 11Zzzz",
  "5Arab 1Zyyy 6Arab 1Zyyy 14Arab 1Zyyy 3Arab 1Zyyy 32Arab 1Zyyy 10Arab 11Zinh 26Arab 1Zinh",
  "108Arab 1Zyyy 34Arab 14Syrc 1Zzzz 60Syrc 2Zzzz 3Syrc 48Arab 50Thaa 14Zzzz 59Nkoo 2Zzzz 3Nkoo",
  "46Samr 2Zzzz 15Samr 1Zzzz 28Mand 2Zzzz 1Mand 1Zzzz 11Syrc 5Zzzz 34Arab 5Zzzz 75Arab 1Zyyy",
  "29Arab 81Deva 4Zinh 15Deva 2Zyyy 26Deva 4Beng 1Zzzz 8Beng 2Zzzz 2Beng 2Zzzz 22Beng 1Zzzz 7Beng",
  "1Zzzz 1Beng 3Zzzz 4Beng 2Zzzz 9Beng 2Zzzz 2Beng 2Zzzz 4Beng 8Zzzz 1Beng 4Zzzz 2Beng 1Zzzz 5Beng",
  "2Zzzz 25Beng 2Zzzz 3Guru 1Zzzz 6Guru 4Zzzz 2Guru 2Zzzz 22Guru 1Zzzz 7Guru 1Zzzz 2Guru 1Zzzz",
  "2Guru 1Zzzz 2Guru 2Zzzz 1Guru 1Zzzz 5Guru 4Zzzz 2Guru 2Zzzz 3Guru 3Zzzz 1Guru 7Zzzz 4Guru 1Zzzz",
  "1Guru 7Zzzz 17Guru 10Zzzz 3Gujr 1Zzzz 9Gujr 1Zzzz 3Gujr 1Zzzz 22Gujr 1Zzzz 7Gujr 1Zzzz 2Gujr",
  "1Zzzz 5Gujr 2Zzzz 10Gujr 1Zzzz 3Gujr 1Zzzz 3Gujr 2Zzzz 1Gujr 15Zzzz 4Gujr 2Zzzz 12Gujr 7Zzzz",
  "7Gujr 1Zzzz 3Orya 1Zzzz 8Orya 2Zzzz 2Orya 2Zzzz 22Orya 1Zzzz 7Orya 1Zzzz 2Orya 1Zzzz 5Orya",
  "2Zzzz 9Orya 2Zzzz 2Orya 2Zzzz 3Orya 7Zzzz 3Orya 4Zzzz 2Orya 1Zzzz 5Orya 2Zzzz 18Orya 10Zzzz",
  "2Taml 1Zzzz 6Taml 3Zzzz 3Taml 1Zzzz 4Taml 3Zzzz 2Taml 1Zzzz 1Taml 1Zzzz 2Taml 3Zzzz 2Taml 3Zzzz",
  "3Taml 3Zzzz 12Taml 4Zzzz 5Taml 3Zzzz 3Taml 1Zzzz 4Taml 2Zzzz 1Taml 6Zzzz 1Taml 14Zzzz 21Taml",
  "5Zzzz 13Telu 1Zzzz 3Telu 1Zzzz 23Telu 1Zzzz 16Telu 2Zzzz 9Telu 1Zzzz 3Telu 1Zzzz 4Telu 7Zzzz",
  "2Telu 1Zzzz 3Telu 1Zzzz 2Telu 2Zzzz 4Telu 2Zzzz 10Telu 7Zzzz 9Telu 13Knda 1Zzzz 3Knda 1Zzzz",
  "23Knda 1Zzzz 10Knda 1Zzzz 5Knda 2Zzzz 9Knda 1Zzzz 3Knda 1Zzzz 4Knda 7Zzzz 2Knda 5Zzzz 3Knda",
  "1Zzzz 4Knda 2Zzzz 10Knda 1Zzzz 3Knda 12Zzzz 13Mlym 1Zzzz 3Mlym 1Zzzz 51Mlym 1Zzzz 3Mlym 1Zzzz",
  "6Mlym 4Zzzz 16Mlym 2Zzzz 26Mlym 1Zzzz 3Sinh 1Zzzz 18Sinh 3Zzzz 24Sinh 1Zzzz 9Sinh 1Zzzz 1Sinh",
  "2Zzzz 7Sinh 3Zzzz 1Sinh 4Zzzz 6Sinh 1Zzzz 1Sinh 1Zzzz 8Sinh 6Zzzz 10Sinh 2Zzzz 3Sinh 12Zzzz",
  "58Thai 4Zzzz 1Zyyy 28Thai 37Zzzz 2Laoo 1Zzzz 1Laoo 1Zzzz 5Laoo 1Zzzz 24Laoo 1Zzzz 1Laoo 1Zzzz",
  "23Laoo 2Zzzz 5Laoo 1Zzzz 1Laoo 1Zzzz 7Laoo 1Zzzz 10Laoo 2Zzzz 4Laoo 32Zzzz 72Tibt 1Zzzz 36Tibt",
  "4Zzzz 39Tibt 1Zzzz 36Tibt 1Zzzz 15Tibt 1Zzzz 7Tibt 4Zyyy 2Tibt 37Zzzz 160Mymr 38Geor 1Zzzz",
  "1Geor 5Zzzz 1Geor 2Zzzz 43Geor 1Zyyy 4Geor 256Hang 73Ethi 1Zzzz 4Ethi 2Zzzz 7Ethi 1Zzzz 1Ethi",
  "1Zzzz 4Ethi 2Zzzz 41Ethi 1Zzzz 4Ethi 2Zzzz 33Ethi 1Zzzz 4Ethi 2Zzzz 7Ethi 1Zzzz 1Ethi 1Zzzz",
  "4Ethi 2Zzzz 15Ethi 1Zzzz 57Ethi 1Zzzz 4Ethi 2Zzzz 67Ethi 2Zzzz 32Ethi 3Zzzz 26Ethi 6Zzzz 86Cher",
  "2Zzzz 6Cher 2Zzzz 640Cans 29Ogam 3Zzzz 75Runr 3Zyyy 11Runr 7Zzzz 22Tglg 9Zzzz 1Tglg 21Hano",
  "2Zyyy 9Zzzz 20Buhd 12Zzzz 13Tagb 1Zzzz 3Tagb 1Zzzz 2Tagb 12Zzzz 94Khmr 2Zzzz 10Khmr 6Zzzz",
  "10Khmr 6Zzzz 2Mong 2Zyyy 1Mong 1Zyyy 20Mong 6Zzzz 89Mong 7Zzzz 43Mong 5Zzzz 70Cans 10Zzzz",
  "31Limb 1Zzzz 12Limb 4Zzzz 12Limb 4Zzzz 1Limb 3Zzzz 12Limb 30Tale 2Zzzz 5Tale 11Zzzz 44Talu",
  "4Zzzz 26Talu 6Zzzz 11Talu 3Zzzz 2Talu 32Khmr 28Bugi 2Zzzz 2Bugi 63Lana 1Zzzz 29Lana 2Zzzz",
  "11Lana 6Zzzz 10Lana 6Zzzz 14Lana 2Zzzz 46Zinh 2Zzzz 12Zinh 20Zzzz 77Bali 1Zzzz 50Bali 64Sund",
  "52Batk 8Zzzz 4Batk 56Lepc 3Zzzz 15Lepc 3Zzzz 3Lepc 48Olck 11Cyrl 5Zzzz 43Geor 2Zzzz 3Geor 8Sund",
  "8Zzzz 3Zinh 1Zyyy 13Zinh 1Zyyy 7Zinh 4Zyyy 1Zinh 6Zyyy 1Zinh 3Zyyy 2Zinh 1Zyyy 5Zzzz 38Latn",
  "5Grek 1Cyrl 49Latn 5Grek 4Latn 5Grek 13Latn 1Cyrl 70Latn 1Grek 64Zinh 256Latn 22Grek 2Zzzz",
  "6Grek 2Zzzz 38Grek 2Zzzz 6Grek 2Zzzz 8Grek 1Zzzz 1Grek 1Zzzz 1Grek 1Zzzz 1Grek 1Zzzz 31Grek",
  "2Zzzz 53Grek 1Zzzz 15Grek 1Zzzz 14Grek 2Zzzz 6Grek 1Zzzz 19Grek 2Zzzz 3Grek 1Zzzz 9Grek 1Zzzz",
  "12Zyyy 2Zinh 87Zyyy 1Zzzz 11Zyyy 1Latn 2Zzzz 11Zyyy 1Latn 15Zyyy 1Zzzz 13Latn 3Zzzz 34Zyyy",
  "14Zzzz 33Zinh 15Zzzz 38Zyyy 1Grek 3Zyyy 2Latn 6Zyyy 1Latn 27Zyyy 1Latn 17Zyyy 41Latn 3Zyyy",
  "4Zzzz 666Zyyy 22Zzzz 11Zyyy 21Zzzz 928Zyyy 256Brai 628Zyyy 2Zzzz 138Zyyy 96Glag 32Latn 116Copt",
  "5Zzzz 7Copt 38Geor 1Zzzz 1Geor 5Zzzz 1Geor 2Zzzz 56Tfng 7Zzzz 2Tfng 14Zzzz 1Tfng 23Ethi 9Zzzz",
  "7Ethi 1Zzzz 7Ethi 1Zzzz 7Ethi 1Zzzz 7Ethi 1Zzzz 7Ethi 1Zzzz 7Ethi 1Zzzz 7Ethi 1Zzzz 7Ethi 1Zzzz",
  "32Cyrl 94Zyyy 34Zzzz 26Hani 1Zzzz 89Hani 12Zzzz 214Hani 26Zzzz 21Zyyy 1Hani 1Zyyy 1Hani 25Zyyy",
  "9Hani 4Zinh 2Hang 8Zyyy 4Hani 4Zyyy 1Zzzz 86Hira 2Zzzz 2Zinh 2Zyyy 3Hira 1Zyyy 90Kana 2Zyyy",
  "3Kana 5Zzzz 43Bopo 1Zzzz 94Hang 1Zzzz 16Zyyy 32Bopo 38Zyyy 9Zzzz 1Zyyy 16Kana 31Hang 1Zzzz",
  "64Zyyy 31Hang 81Zyyy 47Kana 1Zyyy 88Kana 168Zyyy 6592Hani 64Zyyy 20992Hani 1165Yiii 3Zzzz",
  "55Yiii 9Zzzz 48Lisu 300Vaii 20Zzzz 96Cyrl 88Bamu 8Zzzz 34Zyyy 102Latn 3Zyyy 82Latn 20Zzzz",
  "15Latn 45Sylo 3Zzzz 10Zyyy 6Zzzz 56Phag 8Zzzz 70Saur 8Zzzz 12Saur 6Zzzz 32Deva 46Kali 1Zyyy",
  "1Kali 36Rjng 11Zzzz 1Rjng 29Hang 3Zzzz 78Java 1Zzzz 1Zyyy 10Java 4Zzzz 2Java 31Mymr 1Zzzz",
  "55Cham 9Zzzz 14Cham 2Zzzz 10Cham 2Zzzz 4Cham 32Mymr 67Tavt 24Zzzz 5Tavt 23Mtei 10Zzzz 6Ethi",
  "2Zzzz 6Ethi 2Zzzz 6Ethi 9Zzzz 7Ethi 1Zzzz 7Ethi 1Zzzz 43Latn 1Zyyy 9Latn 1Grek 4Latn 2Zyyy",
  "4Zzzz 80Cher 46Mtei 2Zzzz 10Mtei 6Zzzz 11172Hang 12Zzzz 23Hang 4Zzzz 49Hang 8452Zzzz 366Hani",
  "2Zzzz 106Hani 38Zzzz 7Latn 12Zzzz 5Armn 5Zzzz 26Hebr 1Zzzz 5Hebr 1Zzzz 1Hebr 1Zzzz 2Hebr 1Zzzz",
  "2Hebr 1Zzzz 10Hebr 494Arab 2Zyyy 144Arab 32Zzzz 16Arab 16Zinh 10Zyyy 6Zzzz 14Zinh 2Cyrl 35Zyyy",
  "1Zzzz 19Zyyy 1Zzzz 4Zyyy 4Zzzz 5Arab 1Zzzz 135Arab 2Zzzz 1Zyyy 1Zzzz 32Zyyy 26Latn 6Zyyy 26Latn",
  "11Zyyy 10Kana 1Zyyy 45Kana 2Zyyy 31Hang 3Zzzz 6Hang 2Zzzz 6Hang 2Zzzz 6Hang 2Zzzz 3Hang 3Zzzz",
  "7Zyyy 1Zzzz 7Zyyy 10Zzzz 5Zyyy 2Zzzz 12Linb 1Zzzz 26Linb 1Zzzz 19Linb 1Zzzz 2Linb 1Zzzz 15Linb",
  "2Zzzz 14Linb 34Zzzz 123Linb 5Zzzz 3Zyyy 4Zzzz 45Zyyy 3Zzzz 9Zyyy 79Grek 1Zzzz 13Zyyy 3Zzzz",
  "1Grek 47Zzzz 45Zyyy 1Zinh 130Zzzz 29Lyci 3Zzzz 49Cari 15Zzzz 1Zinh 27Zyyy 4Zzzz 36Ital 9Zzzz",
  "3Ital 27Goth 5Zzzz 43Perm 5Zzzz 30Ugar 1Zzzz 1Ugar 36Xpeo 4Zzzz 14Xpeo 42Zzzz 80Dsrt 48Shaw",
  "30Osma 2Zzzz 10Osma 6Zzzz 36Osge 4Zzzz 36Osge 4Zzzz 40Elba 8Zzzz 52Aghb 11Zzzz 1Aghb 11Vith",
  "1Zzzz 15Vith 1Zzzz 7Vith 1Zzzz 2Vith 1Zzzz 11Vith 1Zzzz 15Vith 1Zzzz 7Vith 1Zzzz 2Vith 3Zzzz",
  "52Todr 12Zzzz 311Lina 9Zzzz 22Lina 10Zzzz 8Lina 24Zzzz 6Latn 1Zzzz 42Latn 1Zzzz 9Latn 69Zzzz",
  "6Cprt 2Zzzz 1Cprt 1Zzzz 44Cprt 1Zzzz 2Cprt 3Zzzz 1Cprt 2Zzzz 1Cprt 22Armi 1Zzzz 9Armi 32Palm",
  "31Nbat 8Zzzz 9Nbat 48Zzzz 19Hatr 1Zzzz 2Hatr 5Zzzz 5Hatr 28Phnx 3Zzzz 1Phnx 26Lydi 5Zzzz 1Lydi",
  "26Sidt 38Zzzz 32Mero 24Merc 4Zzzz 20Merc 2Zzzz 46Merc 4Khar 1Zzzz 2Khar 5Zzzz 8Khar 1Zzzz 3Khar",
  "1Zzzz 29Khar 2Zzzz 3Khar 4Zzzz 10Khar 7Zzzz 9Khar 7Zzzz 32Sarb 32Narb 32Zzzz 39Mani 4Zzzz",
  "12Mani 9Zzzz 54Avst 3Zzzz 7Avst 22Prti 2Zzzz 8Prti 19Phli 5Zzzz 8Phli 18Phlp 7Zzzz 4Phlp 12Zzzz",
  "7Phlp 80Zzzz 73Orkh 55Zzzz 51Hung 13Zzzz 51Hung 7Zzzz 6Hung 40Rohg 8Zzzz 10Rohg 6Zzzz 38Gara",
  "3Zzzz 29Gara 8Zzzz 2Gara 208Zzzz 31Arab 1Zzzz 42Yezi 1Zzzz 3Yezi 2Zzzz 2Yezi 16Zzzz 6Arab 8Zzzz",
  "9Arab 33Zzzz 6Arab 40Sogo 8Zzzz 42Sogd 22Zzzz 26Ougr 38Zzzz 28Chrs 20Zzzz 23Elym 9Zzzz 78Brah",
  "4Zzzz 36Brah 9Zzzz 1Brah 67Kthi 10Zzzz 1Kthi 2Zzzz 25Sora 7Zzzz 10Sora 6Zzzz 53Cakm 1Zzzz",
  "18Cakm 8Zzzz 39Mahj 9Zzzz 96Shrd 1Zzzz 20Sinh 11Zzzz 18Khoj 1Zzzz 47Khoj 62Zzzz 7Mult 1Zzzz",
  "1Mult 1Zzzz 4Mult 1Zzzz 15Mult 1Zzzz 11Mult 6Zzzz 59Sind 5Zzzz 10Sind 6Zzzz 4Gran 1Zzzz 8Gran",
  "2Zzzz 2Gran 2Zzzz 22Gran 1Zzzz 7Gran 1Zzzz 2Gran 1Zzzz 5Gran 1Zzzz 1Zinh 9Gran 2Zzzz 2Gran",
  "2Zzzz 3Gran 2Zzzz 1Gran 6Zzzz 1Gran 5Zzzz 7Gran 2Zzzz 7Gran 3Zzzz 5Gran 11Zzzz 10Tutg 1Zzzz",
  "1Tutg 2Zzzz 1Tutg 1Zzzz 38Tutg 1Zzzz 10Tutg 1Zzzz 1Tutg 2Zzzz 1Tutg 1Zzzz 4Tutg 1Zzzz 10Tutg",
  "1Zzzz 2Tutg 8Zzzz 2Tutg 29Zzzz 92Newa 1Zzzz 5Newa 30Zzzz 72Tirh 8Zzzz 10Tirh 166Zzzz 54Sidd",
  "2Zzzz 38Sidd 34Zzzz 69Modi 11Zzzz 10Modi 6Zzzz 13Mong 19Zzzz 58Takr 6Zzzz 10Takr 6Zzzz 20Mymr",
  "28Zzzz 27Ahom 2Zzzz 15Ahom 4Zzzz 23Ahom 185Zzzz 60Dogr 100Zzzz 83Wara 12Zzzz 1Wara 7Diak 2Zzzz",
  "1Diak 2Zzzz 8Diak 1Zzzz 2Diak 1Zzzz 30Diak 1Zzzz 2Diak 2Zzzz 12Diak 9Zzzz 10Diak 70Zzzz 8Nand",
  "2Zzzz 46Nand 2Zzzz 11Nand 27Zzzz 72Zanb 8Zzzz 83Soyo 13Zzzz 16Cans 57Pauc 7Zzzz 10Deva 86Zzzz",
  "8Shrd 88Zzzz 34Sunu 14Zzzz 10Sunu 6Zzzz 9Bhks 1Zzzz 45Bhks 1Zzzz 14Bhks 10Zzzz 29Bhks 3Zzzz",
  "32Marc 2Zzzz 22Marc 1Zzzz 14Marc 73Zzzz 7Gonm 1Zzzz 2Gonm 1Zzzz 44Gonm 3Zzzz 1Gonm 1Zzzz 2Gonm",
  "1Zzzz 9Gonm 8Zzzz 10Gonm 6Zzzz 6Gong 1Zzzz 2Gong 1Zzzz 37Gong 1Zzzz 2Gong 1Zzzz 6Gong 7Zzzz",
  "10Gong 6Zzzz 44Tols 4Zzzz 10Tols 246Zzzz 25Maka 7Zzzz 17Kawi 1Zzzz 41Kawi 3Zzzz 29Kawi 85Zzzz",
  "1Lisu 15Zzzz 50Taml 13Zzzz 1Taml 922Xsux 102Zzzz 111Xsux 1Zzzz 5Xsux 11Zzzz 196Xsux 2636Zzzz",
  "99Cpmn 13Zzzz 1110Egyp 10Zzzz 3995Egyp 5Zzzz 583Hluw 6841Zzzz 58Gukh 1734Zzzz 569Bamu 7Zzzz",
  "31Mroo 1Zzzz 10Mroo 4Zzzz 2Mroo 79Tnsa 1Zzzz 10Tnsa 6Zzzz 30Bass 2Zzzz 6Bass 10Zzzz 70Hmng",
  "10Zzzz 10Hmng 1Zzzz 7Hmng 1Zzzz 21Hmng 5Zzzz 19Hmng 432Zzzz 58Krai 198Zzzz 91Medf 5Zzzz 25Berf",
  "2Zzzz 25Berf 44Zzzz 75Plrd 4Zzzz 57Plrd 7Zzzz 17Plrd 64Zzzz 1Tang 1Nshu 2Hani 1Kits 11Zzzz",
  "7Hani 9Zzzz 6912Tang 470Kits 41Zzzz 1Kits 31Tang 97Zzzz 115Tang 8701Zzzz 4Kana 1Zzzz 7Kana",
  "1Zzzz 2Kana 1Zzzz 1Kana 287Hira 3Kana 15Zzzz 1Hira 29Zzzz 3Hira 2Zzzz 1Kana 14Zzzz 4Kana 8Zzzz",
  "396Nshu 2308Zzzz 107Dupl 5Zzzz 13Dupl 3Zzzz 9Dupl 7Zzzz 10Dupl 2Zzzz 4Dupl 4Zyyy 3932Zzzz",
  "253Zyyy 3Zzzz 436Zyyy 6Zzzz 23Zyyy 15Zzzz 17Zyyy 15Zzzz 46Zinh 2Zzzz 23Zinh 9Zzzz 116Zyyy",
  "60Zzzz 246Zyyy 10Zzzz 39Zyyy 2Zzzz 62Zyyy 3Zinh 17Zyyy 8Zinh 2Zyyy 7Zinh 30Zyyy 4Zinh 61Zyyy",
  "21Zzzz 70Grek 122Zzzz 20Zyyy 12Zzzz 20Zyyy 12Zzzz 87Zyyy 9Zzzz 25Zyyy 135Zzzz 85Zyyy 1Zzzz",
  "71Zyyy 1Zzzz 2Zyyy 2Zzzz 1Zyyy 2Zzzz 2Zyyy 2Zzzz 4Zyyy 1Zzzz 12Zyyy 1Zzzz 1Zyyy 1Zzzz 7Zyyy",
  "1Zzzz 65Zyyy 1Zzzz 4Zyyy 2Zzzz 8Zyyy 1Zzzz 7Zyyy 1Zzzz 28Zyyy 1Zzzz 4Zyyy 1Zzzz 5Zyyy 1Zzzz",
  "1Zyyy 3Zzzz 7Zyyy 1Zzzz 340Zyyy 2Zzzz 292Zyyy 2Zzzz 50Zyyy 652Sgnw 15Zzzz 5Sgnw 1Zzzz 15Sgnw",
  "1104Zzzz 31Latn 6Zzzz 6Latn 213Zzzz 7Glag 1Zzzz 17Glag 2Zzzz 7Glag 1Zzzz 2Glag 1Zzzz 5Glag",
  "5Zzzz 62Cyrl 33Zzzz 1Cyrl 112Zzzz 45Hmnp 3Zzzz 14Hmnp 2Zzzz 10Hmnp 4Zzzz 2Hmnp 320Zzzz 31Toto",
  "17Zzzz 58Wcho 5Zzzz 1Wcho 464Zzzz 42Nagm 214Zzzz 43Onao 4Zzzz 1Onao 192Zzzz 31Tayo 1Zzzz 22Tayo",
  "8Zzzz 2Tayo 224Zzzz 7Ethi 1Zzzz 4Ethi 1Zzzz 2Ethi 1Zzzz 15Ethi 1Zzzz 197Mend 2Zzzz 16Mend",
  "41Zzzz 76Adlm 4Zzzz 10Adlm 4Zzzz 2Adlm 785Zzzz 68Zyyy 76Zzzz 61Zyyy 194Zzzz 4Arab 1Zzzz 27Arab",
  "1Zzzz 2Arab 1Zzzz 1Arab 2Zzzz 1Arab 1Zzzz 10Arab 1Zzzz 4Arab 1Zzzz 1Arab 1Zzzz 1Arab 6Zzzz",
  "1Arab 4Zzzz 1Arab 1Zzzz 1Arab 1Zzzz 1Arab 1Zzzz 3Arab 1Zzzz 2Arab 1Zzzz 1Arab 2Zzzz 1Arab 1Zzzz",
  "1Arab 1Zzzz 1Arab 1Zzzz 1Arab 1Zzzz 1Arab 1Zzzz 2Arab 1Zzzz 1Arab 2Zzzz 4Arab 1Zzzz 7Arab 1Zzzz",
  "4Arab 1Zzzz 4Arab 1Zzzz 1Arab 1Zzzz 10Arab 1Zzzz 17Arab 5Zzzz 3Arab 1Zzzz 5Arab 1Zzzz 17Arab",
  "52Zzzz 2Arab 270Zzzz 44Zyyy 4Zzzz 100Zyyy 12Zzzz 15Zyyy 2Zzzz 15Zyyy 1Zzzz 15Zyyy 1Zzzz 37Zyyy",
  "10Zzzz 174Zyyy 56Zzzz 26Zyyy 1Hira 2Zyyy 13Zzzz 44Zyyy 4Zzzz 9Zyyy 7Zzzz 2Zyyy 14Zzzz 6Zyyy",
  "154Zzzz 985Zyyy 3Zzzz 17Zyyy 3Zzzz 13Zyyy 3Zzzz 218Zyyy 6Zzzz 12Zyyy 4Zzzz 1Zyyy 15Zzzz 12Zyyy",
  "4Zzzz 56Zyyy 8Zzzz 10Zyyy 6Zzzz 40Zyyy 8Zzzz 30Zyyy 2Zzzz 12Zyyy 4Zzzz 2Zyyy 14Zzzz 9Zyyy",
  "39Zzzz 344Zyyy 8Zzzz 14Zyyy 2Zzzz 13Zyyy 3Zzzz 11Zyyy 3Zzzz 57Zyyy 1Zzzz 1Zyyy 4Zzzz 16Zyyy",
  "2Zzzz 12Zyyy 4Zzzz 10Zyyy 7Zzzz 147Zyyy 1Zzzz 103Zyyy 1029Zzzz 42720Hani 32Zzzz 4382Hani 2Zzzz",
  "5774Hani 2Zzzz 7473Hani 15Zzzz 622Hani 2466Zzzz 542Hani 1506Zzzz 4939Hani 5Zzzz 8490Hani",
  "707463Zzzz 1Zyyy 30Zzzz 96Zyyy 128Zzzz 240Zinh 196112Zzzz"]

/-- The stretches of characters with the same scripts, one tag behind the other, if these are not just
the script of the characters; other stretches have a hyphen. -/
def sharedScriptStretches : List (Nat × String) := readTagged [
  "183- 1AvstCariCoptDuplElbaGeorGlagGongGothGrekHaniLatnLydiMahjPermShaw 516-",
  "1BengCyrlDevaLatnLisuThaiToto 10- 1BopoLatn 1- 3BopoLatn 1- 1LatnLisu 9- 1LatnThai 1- 1BopoLatn",
  "38- 1CherCoptCyrlGrekLatnPermSunuTale 1CherCyrlGrekLatnOsgeSunuTaleTodr 1CherCyrlLatnTfng",
  "1GlagLatnSunuSyrcThai 1AghbCherCoptCyrlGothGrekLatnOsgeSyrcTfngTodr 1CoptElbaGlagGothKanaLatn",
  "1CyrlGrekLatnPermTfng 1CoptDuplHebrLatnPermSyrcTaleTfngTodr",
  "1ArmnCyrlDuplGothGrekHebrLatnPermSyrcTaleTfng 1LatnTfng 1DuplLatnSyrc 1CherCyrlLatnOsge",
  "1CherLatnTale 1LatnSunu 1EthiLatn 1- 1LatnSunu 1CyrlLatnTodr 1- 1GrekLatnPermTodr 15-",
  "1CherDuplKanaLatnSyrcTfng 1CherDuplLatnSyrc 1LatnSyrc 7- 1LatnSunuSyrc 1LatnSyrc 1-",
  "1CherLatnSyrc 1AghbCherGothLatnSunuSyrcThai 16- 1Grek 2- 1Grek 18- 1LatnOsge 5- 1AghbLatnTodr",
  "4- 13Latn 4- 2CoptGrek 269- 1CyrlPerm 1CyrlGlag 2CyrlLatn 1CyrlGlag 257- 1ArmnGeorGlag 130-",
  "1ArabGaraNkooRohgSyrcThaaYezi 14- 1ArabGaraNkooRohgSyrcThaaYezi 1ArabSyrcThaa 2-",
  "1AdlmArabGaraNkooRohgSyrcThaaYezi 32- 1AdlmArabMandManiOugrPhlpRohgSogdSyrc 10- 11ArabSyrc 10-",
  "10ArabThaaYezi 6- 1ArabSyrc 99- 1ArabRohg 636-",
  "1BengDevaGranGujrGuruKndaLatnMlymNandNewaOryaShrdTamlTeluTirh",
  "1BengDevaGranGujrGuruKndaLatnMlymNewaOryaTamlTeluTirh 17-",
  "1BengDevaDogrGongGonmGranGujrGuruKndaMahjMlymNandOnaoOryaSindSinhSyloTakrTamlTeluTirh",
  "1BengDevaDogrGongGonmGranGujrGukhGuruKndaLimbMahjMlymNandOnaoOryaSindSinhSyloTakrTamlTeluTirh",
  "10DevaDogrKthiMahj 118- 10BengCakmSylo 118- 10GuruMult 118- 10GujrKhoj 246- 14GranTaml 242-",
  "10KndaNandTutg 848- 10CakmMymrTale 177- 1GeorGlagLatn 1519- 3Runr 71- 2BuhdHanoTagbTglg 203-",
  "2MongPhag 1- 1MongPhag 1226- 1BengDevaGranKnda 1Deva 1BengDevaGranKnda 1DevaGranKnda 1Deva",
  "1BengDevaNewaTeluTirh 1BengDevaTelu 1DevaNewaShrd 1BengDevaNewaTelu 1DevaShrd",
  "1DevaKndaMlymOryaTamlTelu 1Deva 2DevaShrd 2Deva 1DevaShrd 1BengDeva 1DevaNewaTirh 6Deva",
  "1DevaNandNewa 1BengDevaShrd 1DevaNewa 1Deva 1BengDevaNewaShrd 4Deva",
  "1BengDevaGranKndaMlymNandOryaSinhTeluTirhTutg 1DevaGran 1DevaGranKndaTutg 2BengDeva 1Beng",
  "2DevaGran 1Nand 197- 2Grek 54- 1CyrlLatnSyrc 1- 1Syrc 564- 1LatnMongPhag 31- 1AdlmArab 10-",
  "1CariGeorGlagHungLyciOrkh 2- 1CariGrekHungMero 146- 1DevaGranLatn 3366- 1CoptLatn 24- 1AvstOrkh",
  "1AvstCariGeorHungKthiLydiSamr 10- 1Dupl 4- 1AdlmArabHung 1- 1CyrlGlag 428- 16HaniTang 1-",
  "1BopoHangHaniHiraKanaMongYiii 1BopoHangHaniHiraKanaMongPhagYiii 1BopoHangHaniHiraKana 2- 1Hani",
  "1- 2BopoHangHaniHiraKanaMongTibtYiii 2BopoHangHaniHiraKanaLisuMongTibtYiii",
  "6BopoHangHaniHiraKanaYiii 1- 1BopoHangHaniHiraKana 8BopoHangHaniHiraKanaYiii",
  "4BopoHangHaniHiraKana 10- 4BopoHani 2- 1BopoHangHaniHiraKana 5HiraKana 1- 1BopoHangHaniHiraKana",
  "4- 2HaniHiraKana 2Hani 89- 4HiraKana 3- 1HiraKana 90- 1BopoHangHaniHiraKanaYiii 1HiraKana 147-",
  "16Hani 32- 38Hani 9- 1HaniTang 48- 40Hani 56- 49Hani 15- 12Hani 51- 1Hani 88- 25Hani 10- 5Hani",
  "96- 31Hani 29296- 1CyrlGlag 144- 8HaniLatn 296-",
  "3DevaDogrGujrGuruKhojKndaKthiMahjMlymModiNandShrdSindTakrTirhTutg",
  "3DevaDogrGujrGuruKhojKndaKthiMahjModiNandShrdSindTakrTirhTutg",
  "2DevaDogrGujrGuruKhojKthiMahjModiSindTakrTirh 1DevaDogrGujrGuruKhojKthiMahjModiShrdSindTakrTirh",
  "1DevaDogrGujrGuruKhojKthiMahjModiSindTakrTirh 183- 1BengDevaTutg 1- 1DevaTaml 58- 1KaliLatnMymr",
  "160- 1BugiJava 21358- 2ArabNkoo 178- 1ArabThaa 10- 1ArabThaa 71- 2BopoHangHaniHiraKana 282-",
  "5BopoHangHaniHiraKanaYiii 10- 1HiraKana 45- 2HiraKana 352- 2CpmnCprtLinb 1CprtLinb 4-",
  "45CprtLinaLinb 3- 9CprtLinb 416- 28ArabCopt 2038- 1ManiOugr 2062- 1GranTaml 1- 1GranTaml 55-",
  "2GranTaml 3219- 2GranTaml 1- 1GranTaml 40140- 4Dupl 5820- 18Hani 7902- 2Hani"]

/-- The loose names of the scripts, each with the tag of its stretches. -/
def scriptNames : List (List String × String) := [
  (["adlm", "adlam"], "Adlm"), (["aghb", "caucasianalbanian"], "Aghb"), (["ahom"], "Ahom"),
  (["arab", "arabic"], "Arab"), (["armi", "imperialaramaic"], "Armi"),
  (["armn", "armenian"], "Armn"), (["avst", "avestan"], "Avst"), (["bali", "balinese"], "Bali"),
  (["bamu", "bamum"], "Bamu"), (["bass", "bassavah"], "Bass"), (["batk", "batak"], "Batk"),
  (["beng", "bengali"], "Beng"), (["berf", "beriaerfe"], "Berf"), (["bhks", "bhaiksuki"], "Bhks"),
  (["bopo", "bopomofo"], "Bopo"), (["brah", "brahmi"], "Brah"), (["brai", "braille"], "Brai"),
  (["bugi", "buginese"], "Bugi"), (["buhd", "buhid"], "Buhd"), (["cakm", "chakma"], "Cakm"),
  (["cans", "canadianaboriginal"], "Cans"), (["cari", "carian"], "Cari"), (["cham"], "Cham"),
  (["cher", "cherokee"], "Cher"), (["chrs", "chorasmian"], "Chrs"),
  (["copt", "coptic", "qaac"], "Copt"), (["cpmn", "cyprominoan"], "Cpmn"),
  (["cprt", "cypriot"], "Cprt"), (["cyrl", "cyrillic"], "Cyrl"), (["deva", "devanagari"], "Deva"),
  (["diak", "divesakuru"], "Diak"), (["dogr", "dogra"], "Dogr"), (["dsrt", "deseret"], "Dsrt"),
  (["dupl", "duployan"], "Dupl"), (["egyp", "egyptianhieroglyphs"], "Egyp"),
  (["elba", "elbasan"], "Elba"), (["elym", "elymaic"], "Elym"), (["ethi", "ethiopic"], "Ethi"),
  (["gara", "garay"], "Gara"), (["geor", "georgian"], "Geor"), (["glag", "glagolitic"], "Glag"),
  (["gong", "gunjalagondi"], "Gong"), (["gonm", "masaramgondi"], "Gonm"),
  (["goth", "gothic"], "Goth"), (["gran", "grantha"], "Gran"), (["grek", "greek"], "Grek"),
  (["gujr", "gujarati"], "Gujr"), (["gukh", "gurungkhema"], "Gukh"), (["guru", "gurmukhi"], "Guru"),
  (["hang", "hangul"], "Hang"), (["hani", "han"], "Hani"), (["hano", "hanunoo"], "Hano"),
  (["hatr", "hatran"], "Hatr"), (["hebr", "hebrew"], "Hebr"), (["hira", "hiragana"], "Hira"),
  (["hluw", "anatolianhieroglyphs"], "Hluw"), (["hmng", "pahawhhmong"], "Hmng"),
  (["hmnp", "nyiakengpuachuehmong"], "Hmnp"), (["hung", "oldhungarian"], "Hung"),
  (["ital", "olditalic"], "Ital"), (["java", "javanese"], "Java"), (["kali", "kayahli"], "Kali"),
  (["kana", "katakana"], "Kana"), (["kawi"], "Kawi"), (["khar", "kharoshthi"], "Khar"),
  (["khmr", "khmer"], "Khmr"), (["khoj", "khojki"], "Khoj"),
  (["kits", "khitansmallscript"], "Kits"), (["knda", "kannada"], "Knda"),
  (["krai", "kiratrai"], "Krai"), (["kthi", "kaithi"], "Kthi"), (["lana", "taitham"], "Lana"),
  (["laoo", "lao"], "Laoo"), (["latn", "latin"], "Latn"), (["lepc", "lepcha"], "Lepc"),
  (["limb", "limbu"], "Limb"), (["lina", "lineara"], "Lina"), (["linb", "linearb"], "Linb"),
  (["lisu"], "Lisu"), (["lyci", "lycian"], "Lyci"), (["lydi", "lydian"], "Lydi"),
  (["mahj", "mahajani"], "Mahj"), (["maka", "makasar"], "Maka"), (["mand", "mandaic"], "Mand"),
  (["mani", "manichaean"], "Mani"), (["marc", "marchen"], "Marc"),
  (["medf", "medefaidrin"], "Medf"), (["mend", "mendekikakui"], "Mend"),
  (["merc", "meroiticcursive"], "Merc"), (["mero", "meroitichieroglyphs"], "Mero"),
  (["mlym", "malayalam"], "Mlym"), (["modi"], "Modi"), (["mong", "mongolian"], "Mong"),
  (["mroo", "mro"], "Mroo"), (["mtei", "meeteimayek"], "Mtei"), (["mult", "multani"], "Mult"),
  (["mymr", "myanmar"], "Mymr"), (["nagm", "nagmundari"], "Nagm"),
  (["nand", "nandinagari"], "Nand"), (["narb", "oldnortharabian"], "Narb"),
  (["nbat", "nabataean"], "Nbat"), (["newa"], "Newa"), (["nkoo", "nko"], "Nkoo"),
  (["nshu", "nushu"], "Nshu"), (["ogam", "ogham"], "Ogam"), (["olck", "olchiki"], "Olck"),
  (["onao", "olonal"], "Onao"), (["orkh", "oldturkic"], "Orkh"), (["orya", "oriya"], "Orya"),
  (["osge", "osage"], "Osge"), (["osma", "osmanya"], "Osma"), (["ougr", "olduyghur"], "Ougr"),
  (["palm", "palmyrene"], "Palm"), (["pauc", "paucinhau"], "Pauc"), (["perm", "oldpermic"], "Perm"),
  (["phag", "phagspa"], "Phag"), (["phli", "inscriptionalpahlavi"], "Phli"),
  (["phlp", "psalterpahlavi"], "Phlp"), (["phnx", "phoenician"], "Phnx"),
  (["plrd", "miao"], "Plrd"), (["prti", "inscriptionalparthian"], "Prti"),
  (["rjng", "rejang"], "Rjng"), (["rohg", "hanifirohingya"], "Rohg"), (["runr", "runic"], "Runr"),
  (["samr", "samaritan"], "Samr"), (["sarb", "oldsoutharabian"], "Sarb"),
  (["saur", "saurashtra"], "Saur"), (["sgnw", "signwriting"], "Sgnw"),
  (["shaw", "shavian"], "Shaw"), (["shrd", "sharada"], "Shrd"), (["sidd", "siddham"], "Sidd"),
  (["sidt", "sidetic"], "Sidt"), (["sind", "khudawadi"], "Sind"), (["sinh", "sinhala"], "Sinh"),
  (["sogd", "sogdian"], "Sogd"), (["sogo", "oldsogdian"], "Sogo"),
  (["sora", "sorasompeng"], "Sora"), (["soyo", "soyombo"], "Soyo"), (["sund", "sundanese"], "Sund"),
  (["sunu", "sunuwar"], "Sunu"), (["sylo", "sylotinagri"], "Sylo"), (["syrc", "syriac"], "Syrc"),
  (["tagb", "tagbanwa"], "Tagb"), (["takr", "takri"], "Takr"), (["tale", "taile"], "Tale"),
  (["talu", "newtailue"], "Talu"), (["taml", "tamil"], "Taml"), (["tang", "tangut"], "Tang"),
  (["tavt", "taiviet"], "Tavt"), (["tayo", "taiyo"], "Tayo"), (["telu", "telugu"], "Telu"),
  (["tfng", "tifinagh"], "Tfng"), (["tglg", "tagalog"], "Tglg"), (["thaa", "thaana"], "Thaa"),
  (["thai"], "Thai"), (["tibt", "tibetan"], "Tibt"), (["tirh", "tirhuta"], "Tirh"),
  (["tnsa", "tangsa"], "Tnsa"), (["todr", "todhri"], "Todr"), (["tols", "tolongsiki"], "Tols"),
  (["toto"], "Toto"), (["tutg", "tulutigalari"], "Tutg"), (["ugar", "ugaritic"], "Ugar"),
  (["vaii", "vai"], "Vaii"), (["vith", "vithkuqi"], "Vith"), (["wara", "warangciti"], "Wara"),
  (["wcho", "wancho"], "Wcho"), (["xpeo", "oldpersian"], "Xpeo"), (["xsux", "cuneiform"], "Xsux"),
  (["yezi", "yezidi"], "Yezi"), (["yiii", "yi"], "Yiii"), (["zanb", "zanabazarsquare"], "Zanb"),
  (["zinh", "inherited", "qaai"], "Zinh"), (["zyyy", "common"], "Zyyy")]

end Orthography.Character
