import SchemaRecords.Charset.Table

/-!
# Characters of Chinese: the extensions

* `gbkSigns` -- the signs that the first extension adds to the first Chinese set, or puts in the
  place of others; its ideographs are those that the first set lacks;
* `gb18030Spans` -- what the second extension adds in two octets;
* `gb18030Ranges` -- the characters of its codes of four octets, in their order.
-/

namespace SchemaRecords.Charset

/-- The signs and the ideographs out of order. -/
def gbkSigns : Table := Table.ofText "
A1A4 ·.....—
A2A1 ⅰⅱⅲⅳⅴⅵⅶⅷⅸⅹ
A6E0 ︵︶︹︺︿﹀︽︾﹁﹂﹃﹄..︻︼︷︸︱.︳︴
A840 ˊˋ˙–―‥‵℅℉↖↗↘↙∕∟∣≒≦≧⊿═║╒╓╔╕╖╗╘╙╚╛╜╝╞╟╠╡╢╣╤╥╦╧╨╩╪╫╬╭╮╯╰╱╲╳▁▂▃▄▅▆▇.█▉▊▋▌▍▎▏▓▔▕▼▽◢◣◤◥☉⊕〒〝〞
A8BB ɑ.ńň.ɡ
A940 〡〢〣〤〥〦〧〨〩㊣㎎㎏㎜㎝㎞㎡㏄㏎㏑㏒㏕︰￢￤.℡㈱.‐...ー゛゜ヽヾ〆ゝゞ﹉﹊﹋﹌﹍﹎﹏﹐﹑﹒﹔﹕﹖﹗﹙﹚﹛﹜﹝﹞﹟﹠﹡.﹢﹣﹤﹥﹦﹨﹩﹪﹫
A996 〇
FD9C 郎凉秊裏隣
FE40 兀嗀﨎﨏﨑﨓﨔礼﨟蘒﨡﨣﨤﨧﨨﨩"

/-- The codes of two octets that the second extension adds. -/
def gb18030Spans : Spans := Spans.ofText
    "A140-A17E:E4C6 A180-A1A0:E505 A240-A27E:E526 A280-A2A0:E565 A2AB-A2B0:E766 A2E3:20AC A2E4:E76D
     A2EF-A2F0:E76E A2FD-A2FE:E770 A340-A37E:E586 A380-A3A0:E5C5 A440-A47E:E5E6 A480-A4A0:E625
     A4F4-A4FE:E772 A540-A57E:E646 A580-A5A0:E685 A5F7-A5FE:E77D A640-A67E:E6A6 A680-A6A0:E6E5
     A6B9-A6C0:E785 A6D9-A6DF:E78D A6EC-A6ED:E794 A6F3:E796 A6F6-A6FE:E797 A740-A77E:E706
     A780-A7A0:E745 A7C2-A7D0:E7A0 A7F2-A7FE:E7AF A896-A8A0:E7BC A8BC:E7C7 A8BF:1F9 A8C1-A8C4:E7C9
     A8EA-A8FE:E7CD A958:E7E2 A95B:E7E3 A95D-A95F:E7E4 A989:303E A98A-A995:2FF0 A997-A9A3:E7F4
     A9F0-A9FE:E801 AAA1-AAFE:E000 ABA1-ABFE:E05E ACA1-ACFE:E0BC ADA1-ADFE:E11A AEA1-AEFE:E178
     AFA1-AFFE:E1D6 D7FA-D7FE:E810 F8A1-F8FE:E234 F9A1-F9FE:E292 FAA1-FAFE:E2F0 FBA1-FBFE:E34E
     FCA1-FCFE:E3AC FDA1-FDFE:E40A FE50:2E81 FE51-FE53:E816 FE54:2E84 FE55:3473 FE56:3447 FE57:2E88
     FE58:2E8B FE59:E81E FE5A:359E FE5B:361A FE5C:360E FE5D:2E8C FE5E:2E97 FE5F:396E FE60:3918
     FE61:E826 FE62:39CF FE63:39DF FE64:3A73 FE65:39D0 FE66-FE67:E82B FE68:3B4E FE69:3C6E FE6A:3CE0
     FE6B:2EA7 FE6C-FE6D:E831 FE6E:2EAA FE6F:4056 FE70:415F FE71:2EAE FE72:4337 FE73:2EB3
     FE74-FE75:2EB6 FE76:E83B FE77:43B1 FE78:43AC FE79:2EBB FE7A:43DD FE7B:44D6 FE7C:4661 FE7D:464C
     FE7E:E843 FE80:4723 FE81:4729 FE82:477C FE83:478D FE84:2ECA FE85:4947 FE86:497A FE87:497D
     FE88-FE89:4982 FE8A-FE8B:4985 FE8C:499F FE8D:499B FE8E:49B7 FE8F:49B6 FE90-FE91:E854 FE92:4CA3
     FE93-FE95:4C9F FE96:4C77 FE97:4CA2 FE98-FE9E:4D13 FE9F:4DAE FEA0:E864 FEA1-FEFE:E468"

/-- The characters of codes of four octets up to the last one of sixteen bits. -/
def gb18030Ranges : Text.Ranges := Text.Ranges.ofText
    "80-A3 A5-A6 A9-AF B2-B6 B8-D6 D8-DF E2-E7 EB EE-F1 F4-F6 F8 FB FD-100 102-112 114-11A 11C-12A
     12C-143 145-147 149-14C 14E-16A 16C-1CD 1CF 1D1 1D3 1D5 1D7 1D9 1DB 1DD-1F8 1FA-250 252-260
     262-2C6 2C8 2CC-2D8 2DA-390 3A2 3AA-3B0 3C2 3CA-400 402-40F 450 452-200F 2011-2012 2017
     201A-201B 201E-2024 2027-202F 2031 2034 2036-203A 203C-20AB 20AD-2102 2104 2106-2108 210A-2115
     2117-2120 2122-215F 216C-216F 217A-218F 2194-2195 219A-2207 2209-220E 2210 2212-2214 2216-2219
     221B-221C 2221-2222 2224 2226 222C-222D 222F-2233 2238-223C 223E-2247 2249-224B 224D-2251
     2253-225F 2262-2263 2268-226D 2270-2294 2296-2298 229A-22A4 22A6-22BE 22C0-2311 2313-245F
     246A-2473 249C-24FF 254C-254F 2574-2580 2590-2592 2596-259F 25A2-25B1 25B4-25BB 25BE-25C5
     25C8-25CA 25CC-25CD 25D0-25E1 25E6-2604 2607-2608 260A-263F 2641 2643-2E80 2E82-2E83 2E85-2E87
     2E89-2E8A 2E8D-2E96 2E98-2EA6 2EA8-2EA9 2EAB-2EAD 2EAF-2EB2 2EB4-2EB5 2EB8-2EBA 2EBC-2EC9
     2ECB-2FEF 2FFC-2FFF 3004 3018-301C 301F-3020 302A-303D 303F-3040 3094-309A 309F-30A0 30F7-30FB
     30FF-3104 312A-321F 322A-3230 3232-32A2 32A4-338D 3390-339B 339F-33A0 33A2-33C3 33C5-33CD
     33CF-33D0 33D3-33D4 33D6-3446 3448-3472 3474-359D 359F-360D 360F-3619 361B-3917 3919-396D
     396F-39CE 39D1-39DE 39E0-3A72 3A74-3B4D 3B4F-3C6D 3C6F-3CDF 3CE1-4055 4057-415E 4160-4336
     4338-43AB 43AD-43B0 43B2-43DC 43DE-44D5 44D7-464B 464D-4660 4662-4722 4724-4728 472A-477B
     477D-478C 478E-4946 4948-4979 497B-497C 497E-4981 4984 4987-499A 499C-499E 49A0-49B5 49B8-4C76
     4C78-4C9E 4CA4-4D12 4D1A-4DAD 4DAF-4DFF 9FA6-D7FF E76C E7C8 E7E7-E7F3 E815 E819-E81D E81F-E825
     E827-E82A E82D-E830 E833-E83A E83C-E842 E844-E853 E856-E863 E865-F92B F92D-F978 F97A-F994
     F996-F9E6 F9E8-F9F0 F9F2-FA0B FA10 FA12 FA15-FA17 FA19-FA1E FA22 FA25-FA26 FA2A-FE2F FE32
     FE45-FE48 FE53 FE58 FE67 FE6C-FF00 FF5F-FFDF FFE6-FFFF"

end SchemaRecords.Charset
