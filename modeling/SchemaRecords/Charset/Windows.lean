import SchemaRecords.Charset.Basic

/-!
# Sets of windowed systems

* `windows` -- their numbered sets of single octets.
-/

namespace SchemaRecords.Charset

/-- The sets, each with its names and the runs of its characters. -/
def windows : List Charset :=
  [ single "cp1250" "1250 windows_1250"
      "0-7F 20AC FFFD 201A FFFD 201E 2026 2020-2021 FFFD 2030 160 2039 15A 164 17D 179 FFFD
       2018-2019 201C-201D 2022 2013-2014 FFFD 2122 161 203A 15B 165 17E 17A A0 2C7 2D8 141 A4 104
       A6-A9 15E AB-AE 17B B0-B1 2DB 142 B4-B8 105 15F BB 13D 2DD 13E 17C 154 C1-C2 102 C4 139 106
       C7 10C C9 118 CB 11A CD-CE 10E 110 143 147 D3-D4 150 D6-D7 158 16E DA 170 DC-DD 162 DF 155
       E1-E2 103 E4 13A 107 E7 10D E9 119 EB 11B ED-EE 10F 111 144 148 F3-F4 151 F6-F7 159 16F FA
       171 FC-FD 163 2D9",
    single "cp1251" "1251 windows_1251"
      "0-7F 402-403 201A 453 201E 2026 2020-2021 20AC 2030 409 2039 40A 40C 40B 40F 452 2018-2019
       201C-201D 2022 2013-2014 FFFD 2122 459 203A 45A 45C 45B 45F A0 40E 45E 408 A4 490 A6-A7 401
       A9 404 AB-AE 407 B0-B1 406 456 491 B5-B7 451 2116 454 BB 458 405 455 457 410-44F",
    single "cp1252" "1252 windows_1252"
      "0-7F 20AC FFFD 201A 192 201E 2026 2020-2021 2C6 2030 160 2039 152 FFFD 17D FFFD FFFD
       2018-2019 201C-201D 2022 2013-2014 2DC 2122 161 203A 153 FFFD 17E 178 A0-FF",
    single "cp1253" "1253 windows_1253"
      "0-7F 20AC FFFD 201A 192 201E 2026 2020-2021 FFFD 2030 FFFD 2039 FFFD FFFD FFFD FFFD FFFD
       2018-2019 201C-201D 2022 2013-2014 FFFD 2122 FFFD 203A FFFD FFFD FFFD FFFD A0 385-386 A3-A9
       FFFD AB-AE 2015 B0-B3 384 B5-B7 388-38A BB 38C BD 38E-3A1 FFFD 3A3-3CE",
    single "cp1254" "1254 windows_1254"
      "0-7F 20AC FFFD 201A 192 201E 2026 2020-2021 2C6 2030 160 2039 152 FFFD FFFD FFFD FFFD
       2018-2019 201C-201D 2022 2013-2014 2DC 2122 161 203A 153 FFFD FFFD 178 A0-CF 11E D1-DC 130
       15E DF-EF 11F F1-FC 131 15F FF",
    single "cp1255" "1255 windows_1255"
      "0-7F 20AC FFFD 201A 192 201E 2026 2020-2021 2C6 2030 FFFD 2039 FFFD FFFD FFFD FFFD FFFD
       2018-2019 201C-201D 2022 2013-2014 2DC 2122 FFFD 203A FFFD FFFD FFFD FFFD A0-A3 20AA A5-A9
       D7 AB-B9 F7 BB-BF 5B0-5B9 FFFD 5BB-5C3 5F0-5F4 FFFD FFFD FFFD FFFD FFFD FFFD FFFD 5D0-5EA
       FFFD FFFD 200E-200F",
    single "cp1256" "1256 windows_1256"
      "0-7F 20AC 67E 201A 192 201E 2026 2020-2021 2C6 2030 679 2039 152 686 698 688 6AF 2018-2019
       201C-201D 2022 2013-2014 6A9 2122 691 203A 153 200C-200D 6BA A0 60C A2-A9 6BE AB-B9 61B
       BB-BE 61F 6C1 621-636 D7 637-63A 640-643 E0 644 E2 645-648 E7-EB 649-64A EE-EF 64B-64E F4
       64F-650 F7 651 F9 652 FB-FC 200E-200F 6D2",
    single "cp1257" "1257 windows_1257"
      "0-7F 20AC FFFD 201A FFFD 201E 2026 2020-2021 FFFD 2030 FFFD 2039 FFFD A8 2C7 B8 FFFD
       2018-2019 201C-201D 2022 2013-2014 FFFD 2122 FFFD 203A FFFD AF 2DB FFFD A0 FFFD A2-A4 FFFD
       A6-A7 D8 A9 156 AB-AE C6 B0-B7 F8 B9 157 BB-BE E6 104 12E 100 106 C4-C5 118 112 10C C9 179
       116 122 136 12A 13B 160 143 145 D3 14C D5-D7 172 141 15A 16A DC 17B 17D DF 105 12F 101 107
       E4-E5 119 113 10D E9 17A 117 123 137 12B 13C 161 144 146 F3 14D F5-F7 173 142 15B 16B FC 17C
       17E 2D9",
    single "cp1258" "1258 windows_1258"
      "0-7F 20AC FFFD 201A 192 201E 2026 2020-2021 2C6 2030 FFFD 2039 152 FFFD FFFD FFFD FFFD
       2018-2019 201C-201D 2022 2013-2014 2DC 2122 FFFD 203A 153 FFFD FFFD 178 A0-C2 102 C4-CB 300
       CD-CF 110 D1 309 D3-D4 1A0 D6-DC 1AF 303 DF-E2 103 E4-EB 301 ED-EF 111 F1 323 F3-F4 1A1
       F6-FC 1B0 20AB FF",
    single "cp874" ""
      "0-7F 20AC FFFD FFFD FFFD FFFD 2026 FFFD FFFD FFFD FFFD FFFD FFFD FFFD FFFD FFFD FFFD FFFD
       2018-2019 201C-201D 2022 2013-2014 FFFD FFFD FFFD FFFD FFFD FFFD FFFD FFFD A0 E01-E3A FFFD
       FFFD FFFD FFFD E3F-E5B" ]

end SchemaRecords.Charset
